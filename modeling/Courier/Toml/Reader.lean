import Courier.Toml.Format
import Courier.Toml.Quoted

/-!
# Reading TOML documents

A document is read line by line. `parse?` has no answer for a document with two entries of one key,
and for one that holds more than `Document` can: there is no telling the two kinds of refusal apart.
-/

namespace Courier.Toml

open Text (isDigit valueOf)

/-- Reads digits, between any two of which a single underscore may stand. -/
def digits (base : Nat) : List Char → List Char × List Char
  | '_' :: d :: rest =>
    if isDigit base d then
      let (more, rest) := digits base rest
      (d :: more, rest)
    else ([], '_' :: d :: rest)
  | d :: rest =>
    if isDigit base d then
      let (more, rest) := digits base rest
      (d :: more, rest)
    else ([], d :: rest)
  | [] => ([], [])

/-- Reads a number that begins with a digit. -/
def natural? (base : Nat) (text : List Char) : Option (Nat × List Char) :=
  if text.head?.any (isDigit base) then
    let (digits, rest) := digits base text
    some (valueOf base digits, rest)
  else none

/-- Reads a decimal number; a zero stands alone. -/
def decimal? : List Char → Option (Nat × List Char)
  | '0' :: rest => some (0, rest)
  | text => natural? 10 text

/-- Reads a whole number. Only a decimal one may have a sign. -/
def number? (text : List Char) : Option (Int × List Char) :=
  let signed (n : Nat × List Char) : Int × List Char := (n.1, n.2)
  let read? : Option (Int × List Char) := match text with
    | '0' :: 'x' :: rest => (natural? 16 rest).map signed
    | '0' :: 'o' :: rest => (natural? 8 rest).map signed
    | '0' :: 'b' :: rest => (natural? 2 rest).map signed
    | '+' :: rest => (decimal? rest).map signed
    | '-' :: rest => (decimal? rest).map fun (n : Nat × List Char) => (-(n.1 : Int), n.2)
    | _ => (decimal? text).map signed
  read?.filter (isNumber ·.1)

/-- Takes a word off the front. -/
def word? (word : List Char) (text : List Char) : Option (List Char) :=
  if word.isPrefixOf text then some (text.drop word.length) else none

def value? (text : List Char) : Option (Value × List Char) :=
  match text with
  | '"' :: _ | '\'' :: _ => (quoted? text).map fun (chars, rest) => (.text chars, rest)
  | 't' :: _ => (word? "true".toList text).map (.flag true, ·)
  | 'f' :: _ => (word? "false".toList text).map (.flag false, ·)
  | _ => (number? text).map fun (n, rest) => (.number n, rest)

/-- Reads a key, bare or quoted. -/
def key? (text : List Char) : Option (List Char × List Char) :=
  match text with
  | '"' :: _ | '\'' :: _ => line? text
  | _ =>
    let bare := text.takeWhile isBare
    if bare.isEmpty then none else some (bare, text.dropWhile isBare)

/-- What follows the end of a line, before which only blanks and a comment may stand. -/
def endLine? (text : List Char) : Option (List Char) :=
  let text := text.dropWhile isBlank
  let text := match text with
    | '#' :: rest => rest.dropWhile isPrintable
    | text => text
  if text.isEmpty then some [] else newline? text

/-- Reads the line of an entry. -/
def entry? (text : List Char) : Option (Entry × List Char) := do
  let (key, text) ← key? (text.dropWhile isBlank)
  match text.dropWhile isBlank with
  | '=' :: text =>
    let (value, text) ← value? (text.dropWhile isBlank)
    some (⟨key, value⟩, ← endLine? text)
  | _ => none

/-- Reads at most `lines` lines. -/
def entriesWithin? : (lines : Nat) → List Char → Option Document
  | _, [] => some []
  | 0, _ => none
  | lines + 1, text =>
    match endLine? text with
    | some rest => entriesWithin? lines rest
    | none => do
      let (entry, rest) ← entry? text
      (entry :: ·) <$> entriesWithin? lines rest

/-- Reads the entries of a document. Every line but the last ends in a line break, so there are no
more lines than characters. -/
def entries? (text : List Char) : Option Document := entriesWithin? text.length text

/-- The text without the byte order mark in front. -/
def skipMark : List Char → List Char
  | '\uFEFF' :: rest => rest
  | text => text

/-- Reads a document. -/
def parse? (text : List Char) : Option Document := do
  let document ← entries? (skipMark text)
  if (document.map (·.key)).Nodup then some document else none

end Courier.Toml
