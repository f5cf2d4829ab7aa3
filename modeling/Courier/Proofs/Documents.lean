import Courier.Proofs.Numbers
import Courier.Settings.Document

/-!
# Plain lines are written and read back

The format at hand keeps what is relied on (`Toml.format_lawful`). It reads plain lines one by one
(`Toml.entries?_written`), and it writes such lines; whatever document is read, its numbers are such as can be
written.
-/

namespace Courier.Toml

open Text (digitsOf isDigit Ends ends_cons)

variable {text rest : List Char} {c : Char}

/-! ### Values -/

theorem IsPlain.isPrintable (h : IsPlain c) : isPrintable c = true := by
  have hlast : c.toNat ≤ 0x7e := h.2.1
  simp [Toml.isPrintable, h.1, hlast]

theorem basic?_plain {chars : List Char} (h : ∀ c ∈ chars, IsPlain c) :
    basic? (chars ++ '"' :: rest) = some (chars, rest) := by
  induction chars with
  | nil => exact basic?.eq_1 rest
  | cons c chars ih =>
    have hc := h c (List.mem_cons_self ..)
    rw [List.cons_append, basic?.eq_3 _ _ hc.2.2.1 hc.2.2.2, if_pos hc.isPrintable,
      ih fun c hc => h c (List.mem_cons_of_mem _ hc)]
    rfl

theorem value?_plain {chars : List Char} (h : ∀ c ∈ chars, IsPlain c) :
    value? ('"' :: chars ++ '"' :: '\n' :: rest) = some (.text chars, '\n' :: rest) := by
  -- a third quote in a row would open a text of several lines
  have hquoted : quoted? ('"' :: (chars ++ '"' :: '\n' :: rest)) = basic? (chars ++ '"' :: '\n' :: rest) := by
    refine quoted?.eq_3 _ (fun more he => ?_) (fun more he => ?_)
    · cases chars with
      | nil => cases he
      | cons c chars => exact (h c (List.mem_cons_self ..)).2.2.1 (List.cons.inj (List.cons.inj he).2).1
    · exact absurd (List.cons.inj he).1 (by decide)
  rw [List.cons_append, value?, hquoted, basic?_plain h]
  rfl

theorem digits_line {base : Nat} {run : List Char} (h : ∀ c ∈ run, isDigit base c = true)
    (hb : isDigit base '\n' = false) (hu : isDigit base '_' = false) :
    digits base (run ++ '\n' :: rest) = (run, '\n' :: rest) := by
  induction run with
  | nil =>
    rw [List.nil_append, digits.eq_2 base '\n' rest fun d more hc => absurd hc (by decide), hb]
    rfl
  | cons c run ih =>
    have hc := h c (List.mem_cons_self ..)
    have hbar : ∀ d more, c = '_' → run ++ '\n' :: rest = d :: more → False := by
      intro d more he
      rw [he, hu] at hc
      cases hc
    rw [List.cons_append, digits.eq_2 base c _ hbar, if_pos hc, ih fun c hc => h c (List.mem_cons_of_mem _ hc)]

/-- A number that is not zero begins with a digit that is none. -/
theorem exists_digitsOf {n : Nat} (hn : n ≠ 0) :
    ∃ c more, digitsOf 10 n = c :: more ∧ isDigit 10 c = true ∧ c ≠ '0' := by
  obtain ⟨c, more, hc⟩ := List.exists_cons_of_ne_nil (Text.digitsOf_ne_nil 10 n)
  have hmem : c ∈ digitsOf 10 n := by simp [hc]
  have hzero : (digitsOf 10 n).head? ≠ some '0' := Text.head?_digitsOf (by decide) (by decide) hn
  rw [hc] at hzero
  exact ⟨c, more, hc, Text.isDigit_of_mem_digitsOf (by decide) (by decide) hmem, by simpa using hzero⟩

theorem decimal?_digitsOf (n : Nat) (rest : List Char) :
    decimal? (digitsOf 10 n ++ '\n' :: rest) = some (n, '\n' :: rest) := by
  by_cases hn : n = 0
  · rw [hn, Text.digitsOf_zero]
    rfl
  · have hread : digits 10 (digitsOf 10 n ++ '\n' :: rest) = (digitsOf 10 n, '\n' :: rest) :=
      digits_line (fun c => Text.isDigit_of_mem_digitsOf (by decide) (by decide)) rfl rfl
    have hvalue : Text.valueOf 10 (digitsOf 10 n) = n := Text.valueOf_digitsOf (by decide) (by decide)
    obtain ⟨c, more, hc, hdigit, hzero⟩ := exists_digitsOf hn
    rw [hc] at hread hvalue ⊢
    rw [List.cons_append] at hread ⊢
    rw [decimal?.eq_2 _ fun rest he => hzero (List.cons.inj he).1, natural?]
    simp [hdigit, hread, hvalue]

theorem number?_digitsOf {n : Nat} (hn : n ≤ maxNumber) (rest : List Char) :
    number? (digitsOf 10 n ++ '\n' :: rest) = some ((n : Int), '\n' :: rest) := by
  have hwritable : isNumber n = true := by
    simp only [isNumber, Bool.and_eq_true, decide_eq_true_eq]
    omega
  by_cases hz : n = 0
  · rw [hz, Text.digitsOf_zero]
    rfl
  · have hdecimal := decimal?_digitsOf n rest
    obtain ⟨c, more, hc, hdigit, hzero⟩ := exists_digitsOf hz
    rw [hc, List.cons_append] at hdecimal ⊢
    have hplus : c ≠ '+' := by
      rintro rfl
      cases hdigit
    have hminus : c ≠ '-' := by
      rintro rfl
      cases hdigit
    simp [number?, hdecimal, hzero, hplus, hminus, hwritable]

theorem value?_digitsOf {n : Nat} (hn : n ≤ maxNumber) (rest : List Char) :
    value? (digitsOf 10 n ++ '\n' :: rest) = some (.number n, '\n' :: rest) := by
  have hnumber := number?_digitsOf hn rest
  obtain ⟨c, more, hc⟩ := List.exists_cons_of_ne_nil (Text.digitsOf_ne_nil 10 n)
  have hmem : c ∈ digitsOf 10 n := by simp [hc]
  have hdigit : isDigit 10 c = true := Text.isDigit_of_mem_digitsOf (by decide) (by decide) hmem
  rw [hc, List.cons_append] at hnumber ⊢
  have hother {d : Char} (hd : isDigit 10 d = false) (tail : List Char) :
      c :: (more ++ '\n' :: rest) = d :: tail → False := by
    intro he
    rw [(List.cons.inj he).1, hd] at hdigit
    cases hdigit
  rw [value?.eq_5 _ (hother rfl) (hother rfl) (hother rfl) (hother rfl), hnumber]
  rfl

theorem value?_flag (b : Bool) (rest : List Char) : value? (writeFlag b ++ rest) = some (.flag b, rest) := by
  cases b
  · rfl
  · rfl

theorem Written.value?_eq {written : List Char} {value : Value} (h : Written written value) (rest : List Char) :
    value? (written ++ '\n' :: rest) = some (value, '\n' :: rest) := by
  cases h with
  | text hc =>
    rw [List.append_assoc]
    exact value?_plain hc
  | number hn => exact value?_digitsOf hn rest
  | flag b => exact value?_flag b _

/-- A written value does not begin with a blank. -/
theorem Written.isBlank_head? {written : List Char} {value : Value} (h : Written written value) :
    ∀ c, written.head? = some c → isBlank c = false := by
  intro c hc
  cases h with
  | text =>
    cases hc
    rfl
  | number =>
    obtain ⟨d, hd, rfl⟩ := Text.exists_of_mem_digitsOf (by decide) (List.mem_of_mem_head? hc)
    interval_cases d <;> rfl
  | flag b => cases b <;> cases hc <;> rfl

/-! ### Lines -/

theorem endLine?_newline (rest : List Char) : endLine? ('\n' :: rest) = some rest := rfl

theorem dropWhile_isBlank_of_head? (h : ∀ c, text.head? = some c → isBlank c = false) :
    text.dropWhile isBlank = text := by
  cases text with
  | nil => rfl
  | cons c text => simp [h c rfl]

theorem isBlank_of_isBare (h : isBare c = true) : isBlank c = false := by
  cases hb : isBlank c with
  | false => rfl
  | true =>
    simp only [isBlank, Bool.or_eq_true, decide_eq_true_eq] at hb
    rcases hb with rfl | rfl
    · cases h
    · cases h

/-- A line that begins with a bare character is neither empty nor a comment. -/
theorem endLine?_of_isBare (h : isBare c = true) : endLine? (c :: text) = none := by
  have hblank := isBlank_of_isBare h
  have hne {d : Char} (hd : isBare d = false) : c ≠ d := by
    rintro rfl
    rw [hd] at h
    cases h
  have hcomment : c ≠ '#' := hne rfl
  have hfeed : c ≠ '\n' := hne rfl
  have hreturn : c ≠ '\r' := hne rfl
  simp [endLine?, hblank, hcomment, newline?, hfeed, hreturn]

theorem key?_bare {key : List Char} (hne : key ≠ []) (hb : ∀ c ∈ key, isBare c = true) :
    key? (key ++ ' ' :: rest) = some (key, ' ' :: rest) := by
  have htake : (key ++ ' ' :: rest).takeWhile isBare = key := by
    rw [List.takeWhile_append_of_pos hb]
    exact List.append_nil _
  have hdrop : (key ++ ' ' :: rest).dropWhile isBare = ' ' :: rest := by
    rw [List.dropWhile_append_of_pos hb]
    rfl
  have hquote {d : Char} (hd : isBare d = false) (tail : List Char) : key ++ ' ' :: rest = d :: tail → False := by
    intro he
    obtain ⟨c, more, rfl⟩ := List.exists_cons_of_ne_nil hne
    have hc := hb c (List.mem_cons_self ..)
    rw [(List.cons.inj he).1, hd] at hc
    cases hc
  rw [key?.eq_3 _ (hquote rfl) (hquote rfl), htake, hdrop]
  simp [hne]

namespace Line.Plain

variable {line : Line}

theorem exists_cons (h : line.Plain) (rest : List Char) :
    ∃ c more, line.print ++ rest = c :: more ∧ isBare c = true := by
  obtain ⟨c, more, hc⟩ := List.exists_cons_of_ne_nil h.key_ne_nil
  exact ⟨c, more ++ " = ".toList ++ line.written ++ ['\n'] ++ rest, by simp [print, hc],
    h.bare c (by simp [hc])⟩

theorem readEntry (h : line.Plain) (rest : List Char) : entry? (line.print ++ rest) = some (line.entry, rest) := by
  have htext : line.print ++ rest = line.key ++ ' ' :: '=' :: ' ' :: (line.written ++ '\n' :: rest) := by
    simp [print]
  have hindent : (line.print ++ rest).dropWhile isBlank = line.print ++ rest := by
    obtain ⟨c, more, hc, hbare⟩ := h.exists_cons rest
    rw [hc]
    simp [isBlank_of_isBare hbare]
  have hvalue : (' ' :: (line.written ++ '\n' :: rest)).dropWhile isBlank = line.written ++ '\n' :: rest := by
    have hhead : ∀ c, (line.written ++ '\n' :: rest).head? = some c → isBlank c = false := by
      intro c hc
      cases hw : line.written with
      | nil =>
        rw [hw] at hc
        cases hc
        rfl
      | cons d written =>
        rw [hw] at hc
        exact h.value.isBlank_head? c (by rw [hw]; exact hc)
    rw [List.dropWhile_cons_of_pos rfl, dropWhile_isBlank_of_head? hhead]
  have heq : ('=' :: ' ' :: (line.written ++ '\n' :: rest)) =
      (' ' :: '=' :: ' ' :: (line.written ++ '\n' :: rest)).dropWhile isBlank := rfl
  unfold entry?
  rw [hindent, htext, key?_bare h.key_ne_nil h.bare]
  simp only [Option.bind_eq_bind, Option.bind_some, ← heq, hvalue, h.value.value?_eq, endLine?_newline]
  rfl

end Line.Plain

/-- Written lines are read back, one by one. -/
theorem entriesWithin?_written {lines : List Line} {limit : Nat} (h : ∀ line ∈ lines, line.Plain)
    (hl : lines.length ≤ limit) : entriesWithin? limit (lines.flatMap Line.print) = some (lines.map Line.entry) := by
  induction lines generalizing limit with
  | nil => cases limit <;> rfl
  | cons line lines ih =>
    obtain ⟨limit, rfl⟩ : ∃ k, limit = k + 1 := ⟨limit - 1, by simp at hl; omega⟩
    have hline := h line (List.mem_cons_self ..)
    have hread := hline.readEntry (lines.flatMap Line.print)
    obtain ⟨c, more, hc, hbare⟩ := hline.exists_cons (lines.flatMap Line.print)
    rw [hc] at hread
    rw [List.flatMap_cons, hc, entriesWithin?.eq_3 _ limit (List.cons_ne_nil c more), endLine?_of_isBare hbare]
    simp [hread, ih (fun line hm => h line (List.mem_cons_of_mem _ hm)) (by simpa using hl)]

theorem entries?_written {lines : List Line} (h : ∀ line ∈ lines, line.Plain) :
    entries? (lines.flatMap Line.print) = some (lines.map Line.entry) := by
  refine entriesWithin?_written h ?_
  induction lines with
  | nil => exact Nat.le_refl _
  | cons line lines ih =>
    have hrest := ih fun line hm => h line (List.mem_cons_of_mem _ hm)
    obtain ⟨c, more, hc, -⟩ := (h line (List.mem_cons_self ..)).exists_cons []
    have hpos := congrArg List.length hc
    simp only [List.append_nil, List.length_cons, List.flatMap_cons, List.length_append] at hpos ⊢
    omega

/-- A document of lines with distinct keys is read back. -/
theorem parse?_written {lines : List Line} (h : ∀ line ∈ lines, line.Plain) (hk : (lines.map Line.key).Nodup) :
    parse? (lines.flatMap Line.print) = some (lines.map Line.entry) := by
  have hmark : skipMark (lines.flatMap Line.print) = lines.flatMap Line.print := by
    cases lines with
    | nil => rfl
    | cons line lines =>
      obtain ⟨c, more, hc, hbare⟩ := (h line (List.mem_cons_self ..)).exists_cons (lines.flatMap Line.print)
      rw [List.flatMap_cons, hc]
      exact skipMark.eq_2 _ fun rest he => by
        rw [(List.cons.inj he).1] at hbare
        cases hbare
  have hkeys : ((lines.map Line.entry).map (·.key)).Nodup := by
    rw [List.map_map]
    exact hk
  unfold parse?
  rw [hmark, entries?_written h]
  simp only [Option.bind_eq_bind, Option.bind_some, hkeys, if_true]

/-! ### Writing -/

theorem Written.print?_eq {written : List Char} {value : Value} (h : Written written value) :
    value.print? = some written := by
  cases h with
  | @text chars hc =>
    have hall : (chars.all fun c => IsPlain c) = true := List.all_eq_true.2 fun c hm => decide_eq_true (hc c hm)
    rw [Value.print?, if_pos hall]
  | @number n hn =>
    have hwritable : 0 ≤ (n : Int) ∧ (n : Int) ≤ maxNumber := ⟨Int.natCast_nonneg n, Int.ofNat_le.2 hn⟩
    rw [Value.print?, if_pos hwritable, Int.toNat_natCast]
  | flag b => rfl

theorem Line.Plain.line?_entry {line : Line} (h : line.Plain) : line.entry.line? = some line := by
  have hkey : line.entry.key ≠ [] ∧ line.entry.key.all isBare = true := ⟨h.key_ne_nil, List.all_eq_true.2 h.bare⟩
  rw [Entry.line?, if_pos hkey, entry, h.value.print?_eq]
  rfl

theorem print?_entries {lines : List Line} (h : ∀ line ∈ lines, line.Plain) :
    print? (lines.map Line.entry) = some (lines.flatMap Line.print) := by
  have hlines : (lines.map Line.entry).mapM Entry.line? = some lines := by
    induction lines with
    | nil => rfl
    | cons line lines ih =>
      obtain ⟨hline, hrest⟩ := List.forall_mem_cons.1 h
      rw [List.map_cons, List.mapM_cons, hline.line?_entry, ih hrest]
      rfl
  rw [print?, hlines, Option.map_some]

/-! ### Numbers that were read -/

theorem isNumber_of_value? {n : Int} (h : value? text = some (.number n, rest)) : isNumber n = true := by
  unfold value? at h
  split at h
  all_goals obtain ⟨⟨found, after⟩, hread, he⟩ := Option.map_eq_some_iff.1 h
  all_goals cases he
  exact (Option.filter_eq_some_iff.1 hread).2

theorem isNumber_of_read {entry : Entry} {n : Int} (h : entry? text = some (entry, rest))
    (hn : entry.value = .number n) : isNumber n = true := by
  unfold entry? at h
  simp only [Option.bind_eq_bind, Option.bind_eq_some_iff] at h
  obtain ⟨⟨key, behind⟩, -, h⟩ := h
  dsimp only at h
  split at h
  · simp only [Option.bind_eq_some_iff] at h
    obtain ⟨⟨value, behind⟩, hvalue, rest, -, h⟩ := h
    cases h
    cases hn
    exact isNumber_of_value? hvalue
  · cases h

theorem isNumber_of_entriesWithin? {limit : Nat} {document : Document} (h : entriesWithin? limit text = some document) :
    ∀ entry ∈ document, ∀ n, entry.value = .number n → isNumber n = true := by
  induction limit generalizing text document with
  | zero =>
    cases text with
    | nil =>
      cases h
      exact nofun
    | cons => cases h
  | succ limit ih =>
    cases text with
    | nil =>
      cases h
      exact nofun
    | cons c text =>
      rw [entriesWithin?.eq_3 _ limit (List.cons_ne_nil c text)] at h
      split at h
      · exact ih h
      · simp only [Option.bind_eq_bind, Option.bind_eq_some_iff, Option.map_eq_map, Option.map_eq_some_iff] at h
        obtain ⟨⟨entry, rest⟩, hentry, later, hlater, rfl⟩ := h
        intro other ho n hn
        rcases List.mem_cons.1 ho with rfl | ho
        · exact isNumber_of_read hentry hn
        · exact ih hlater other ho n hn

/-- Every number of a document that was read can be written. -/
theorem isNumber_of_parse? {document : Document} (h : parse? text = some document) :
    ∀ entry ∈ document, ∀ n, entry.value = .number n → isNumber n = true := by
  simp only [parse?, Option.bind_eq_bind, Option.bind_eq_some_iff] at h
  obtain ⟨found, hentries, h⟩ := h
  obtain ⟨-, h⟩ := Option.ite_none_right_eq_some.1 h
  cases h
  exact isNumber_of_entriesWithin? hentries

theorem nodup_of_parse? {document : Document} (h : parse? text = some document) : (document.map (·.key)).Nodup := by
  simp only [parse?, Option.bind_eq_bind, Option.bind_eq_some_iff] at h
  obtain ⟨found, -, h⟩ := h
  obtain ⟨hkeys, h⟩ := Option.ite_none_right_eq_some.1 h
  cases h
  exact hkeys

theorem format_lawful : format.Lawful where
  read_lines _ h hk := parse?_written h hk
  write_lines _ h _ := print?_entries h
  distinct _ _ h := nodup_of_parse? h
  numbers _ _ h := isNumber_of_parse? h

end Courier.Toml
