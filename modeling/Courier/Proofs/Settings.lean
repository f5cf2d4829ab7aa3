import Courier.Proofs.Addresses
import Courier.Proofs.Documents

/-!
# Written settings are read back

Whatever reads and writes the documents, as long as it keeps to the language, and whatever fits them to the
settings: the document that settings are written as is read back as just these settings, and then they are checked
(`Settings.parse_print`). What was read from any document can be written again.
-/

namespace Courier

open Text (digitsOf)
open Toml (IsPlain)

/-! ### Addresses as text -/

theorem isPlain_digitChar {d : Nat} (hd : d < 16) : IsPlain d.digitChar := by
  interval_cases d <;> decide

theorem isPlain_digitsOf {base n : Nat} (hb : 1 < base) (hb' : base ≤ 16) : ∀ c ∈ digitsOf base n, IsPlain c := by
  intro c hc
  obtain ⟨d, hd, rfl⟩ := Text.exists_of_mem_digitsOf hb hc
  exact isPlain_digitChar (by omega)

theorem isPlain_of_all {chars : List Char} (h : chars.all (fun c => decide (IsPlain c)) = true) :
    ∀ c ∈ chars, IsPlain c := fun c hc => of_decide_eq_true (List.all_eq_true.1 h c hc)

theorem Ipv4.isPlain_print (ip : Ipv4) : ∀ c ∈ ip.print, IsPlain c := by
  have hdot : IsPlain '.' := by decide
  have hdigits {n : Nat} : ∀ c ∈ digitsOf 10 n, IsPlain c := isPlain_digitsOf (by decide) (by decide)
  intro c hc
  simp only [print, List.mem_append, List.mem_cons] at hc
  grind

theorem Ipv6.isPlain_printGroups (groups : List UInt16) : ∀ c ∈ printGroups groups, IsPlain c := by
  have hcolon : IsPlain ':' := by decide
  have hdigits {n : Nat} : ∀ c ∈ digitsOf 16 n, IsPlain c := isPlain_digitsOf (by decide) (by decide)
  induction groups with
  | nil => exact nofun
  | cons group groups =>
    intro c hc
    rw [printGroups_cons, printMore] at hc
    simp only [List.mem_append, List.mem_flatMap, List.mem_cons] at hc
    grind

theorem Ipv6.isPlain_print (ip : Ipv6) : ∀ c ∈ ip.print, IsPlain c := by
  have hcolon : IsPlain ':' := by decide
  have hmapped : ∀ c ∈ "::ffff:".toList, IsPlain c := isPlain_of_all (by decide)
  intro c hc
  unfold print at hc
  split at hc
  · rename_i v4 _
    rcases List.mem_append.1 hc with hc | hc
    · exact hmapped c hc
    · exact v4.isPlain_print c hc
  · have hgroups := fun groups => isPlain_printGroups groups c
    dsimp only at hc
    split at hc
    · simp only [List.mem_append, List.mem_cons] at hc
      grind
    · exact hgroups _ hc

theorem SocketAddress.isPlain_print (address : SocketAddress) : ∀ c ∈ address.print, IsPlain c := by
  have hmarks : ∀ c ∈ [':', '[', ']', '%'], IsPlain c := isPlain_of_all (by decide)
  have hdigits {n : Nat} : ∀ c ∈ digitsOf 10 n, IsPlain c := isPlain_digitsOf (by decide) (by decide)
  intro c hc
  cases address with
  | v4 ip port =>
    have hip := ip.isPlain_print c
    simp only [print, List.mem_append, List.mem_cons] at hc
    grind
  | v6 ip scope port =>
    have hip := ip.isPlain_print c
    unfold print at hc
    dsimp only at hc
    split at hc
    all_goals
      simp only [List.mem_append, List.mem_cons] at hc
      grind

namespace Settings

variable {settings : Settings}

/-! ### Plain lines -/

/-- The plain lines of the document of settings. -/
def lines (settings : Settings) : List Toml.Line :=
  [⟨listenKey, '"' :: settings.listen.print ++ ['"'], .text settings.listen.print⟩,
    ⟨maxHeaderBytesKey, digitsOf 10 settings.maxHeaderBytes, .number settings.maxHeaderBytes⟩,
    ⟨keepAliveKey, Toml.writeFlag settings.keepAlive, .flag settings.keepAlive⟩] ++
  settings.headerReadTimeout.toList.map fun seconds =>
    ⟨headerReadTimeoutKey, digitsOf 10 seconds, .number seconds⟩

theorem map_entry_lines (settings : Settings) : settings.lines.map Toml.Line.entry = settings.toDocument := by
  unfold lines toDocument
  cases settings.headerReadTimeout <;> rfl

theorem nodup_keys (settings : Settings) : (settings.lines.map Toml.Line.key).Nodup := by
  unfold lines
  cases settings.headerReadTimeout with
  | none => exact (by decide : [listenKey, maxHeaderBytesKey, keepAliveKey].Nodup)
  | some => exact (by decide : keys.Nodup)

/-- Settings whose numbers can be written. -/
structure Writable (settings : Settings) : Prop where
  maxHeaderBytes : settings.maxHeaderBytes ≤ Toml.maxNumber
  headerReadTimeout : ∀ seconds, settings.headerReadTimeout = some seconds → seconds ≤ Toml.maxNumber

theorem Writable.plain_lines (h : settings.Writable) : ∀ line ∈ settings.lines, line.Plain := by
  have hbare : ∀ key ∈ keys, key ≠ [] ∧ key.all Toml.isBare = true := by decide
  have hplain {key written : List Char} {value : Toml.Value} (hk : key ∈ keys) (hw : Toml.Written written value) :
      Toml.Line.Plain ⟨key, written, value⟩ := ⟨(hbare key hk).1, List.all_eq_true.1 (hbare key hk).2, hw⟩
  intro line hl
  simp only [lines, List.mem_append, List.mem_cons, List.not_mem_nil, or_false, List.mem_map, Option.mem_toList] at hl
  rcases hl with (rfl | rfl | rfl) | ⟨seconds, ht, rfl⟩
  · exact hplain (by decide) (.text settings.listen.isPlain_print)
  · exact hplain (by decide) (.number h.maxHeaderBytes)
  · exact hplain (by decide) (.flag _)
  · exact hplain (by decide) (.number (h.headerReadTimeout seconds ht))

/-! ### Documents -/

theorem setting?_cons {α : Type} {entry : Toml.Entry} {document : Toml.Document} {key : List Char}
    {read : Toml.Value → Option α} {default : α} :
    setting? (entry :: document) key read default =
      if entry.key = key then read entry.value else setting? document key read default := by
  unfold setting?
  rw [List.find?_cons]
  by_cases h : entry.key = key <;> simp [h]

theorem count?_natCast (n : Nat) : count? (.number n) = some n := by simp [count?]

/-- The entries of settings say what the settings are. -/
theorem setting?_toDocument (settings : Settings) :
    setting? settings.toDocument listenKey address? ({} : Settings).listen = some settings.listen ∧
    setting? settings.toDocument maxHeaderBytesKey count? ({} : Settings).maxHeaderBytes =
      some settings.maxHeaderBytes ∧
    setting? settings.toDocument keepAliveKey flag? ({} : Settings).keepAlive = some settings.keepAlive ∧
    setting? settings.toDocument headerReadTimeoutKey (fun value => (count? value).map some)
      ({} : Settings).headerReadTimeout = some settings.headerReadTimeout := by
  have hlisten : address? (.text settings.listen.print) = some settings.listen := SocketAddress.parse?_print _
  unfold toDocument
  simp only [List.cons_append, List.nil_append, setting?_cons]
  refine ⟨hlisten, count?_natCast _, rfl, ?_⟩
  cases settings.headerReadTimeout with
  | none => rfl
  | some seconds =>
    show (count? (.number seconds)).map some = some (some seconds)
    rw [count?_natCast, Option.map_some]

theorem mem_keys_toDocument (settings : Settings) : ∀ entry ∈ settings.toDocument, entry.key ∈ keys := by
  intro entry he
  simp only [toDocument, List.mem_append, List.mem_cons, List.not_mem_nil, or_false, List.mem_map] at he
  rcases he with (rfl | rfl | rfl) | ⟨seconds, -, rfl⟩ <;> simp [keys]

theorem schema_lawful : schema.Lawful where
  encode_eq _ := rfl
  decode_iff document _ settings := by
    show ofDocument? document = some settings ↔ _
    simp only [ofDocument?, Option.bind_eq_bind, Option.bind_eq_some_iff, Option.ite_none_right_eq_some]
    constructor
    · rintro ⟨listen, hlisten, limit, hlimit, keepAlive, hkeep, timeout, htimeout, hkeys, he⟩
      cases he
      exact ⟨hkeys, hlisten, hlimit, hkeep, htimeout⟩
    · rintro ⟨hkeys, hlisten, hlimit, hkeep, htimeout⟩
      exact ⟨_, hlisten, _, hlimit, _, hkeep, _, htimeout, hkeys, rfl⟩

section

variable {format : Toml.Format} {schema : Schema} (ht : format.Lawful) (hs : schema.Lawful)

include ht hs

theorem printBy?_eq (h : settings.Writable) :
    settings.printBy? format schema = some (settings.lines.flatMap Toml.Line.print) := by
  rw [printBy?, hs.encode_eq, ← map_entry_lines]
  exact ht.write_lines _ h.plain_lines settings.nodup_keys

/-- Settings whose numbers can be written are read back as they are. -/
theorem decode?_lines (h : settings.Writable) :
    (format.read? (settings.lines.flatMap Toml.Line.print)).bind schema.decode? = some settings := by
  have hdistinct : (settings.toDocument.map (·.key)).Nodup := by
    rw [← map_entry_lines, List.map_map]
    exact settings.nodup_keys
  rw [ht.read_lines _ h.plain_lines settings.nodup_keys, Option.bind_some, map_entry_lines,
    hs.decode_iff _ hdistinct]
  exact ⟨settings.mem_keys_toDocument, settings.setting?_toDocument⟩

theorem parseBy_lines (h : settings.Writable) :
    parseBy format schema (settings.lines.flatMap Toml.Line.print) = settings.validate := by
  rw [parseBy, decode?_lines ht hs h]

end

/-! ### Settings that were read -/

theorem writable_default : Writable {} := ⟨by decide, nofun⟩

theorem le_of_count? {value : Toml.Value} {n : Nat} (h : count? value = some n)
    (hn : ∀ m, value = .number m → Toml.isNumber m = true) : n ≤ Toml.maxNumber := by
  unfold count? at h
  split at h
  · rename_i m
    have hm := hn m rfl
    obtain ⟨-, h⟩ := Option.ite_none_right_eq_some.1 h
    simp only [Toml.isNumber, Bool.and_eq_true, decide_eq_true_eq] at hm
    cases h
    omega
  · cases h

/-- What a document says of a setting is the default, or it was read from a value of the document. -/
theorem setting?_eq_some {α : Type} {document : Toml.Document} {key : List Char} {read : Toml.Value → Option α}
    {default found : α} (h : setting? document key read default = some found) :
    found = default ∨ ∃ entry ∈ document, read entry.value = some found := by
  unfold setting? at h
  split at h
  · rename_i entry he
    exact .inr ⟨entry, List.mem_of_find?_eq_some he, h⟩
  · cases h
    exact .inl rfl

theorem eq_of_validate {settings settings' : Settings} (h : settings.validate = .ok settings') :
    settings = settings' := by
  unfold validate at h
  split at h
  · cases h
  · cases h
    rfl

/-- What was read from a document can be written. -/
theorem of_parseBy {format : Toml.Format} {schema : Schema} (ht : format.Lawful) (hs : schema.Lawful)
    {text : List Char} (h : parseBy format schema text = .ok settings) :
    settings.Writable ∧ settings.validate = .ok settings := by
  unfold parseBy at h
  split at h
  · rename_i found hfound
    obtain rfl := eq_of_validate h
    obtain ⟨document, hread, hdecode⟩ := Option.bind_eq_some_iff.1 hfound
    obtain ⟨-, -, hlimit, -, htimeout⟩ := (hs.decode_iff document (ht.distinct text document hread) found).1 hdecode
    -- a number of the settings is the default or was read from the document, where none is too large
    have hnumbers := ht.numbers text document hread
    refine ⟨⟨?_, fun seconds hseconds => ?_⟩, h⟩
    · rcases setting?_eq_some hlimit with hdefault | ⟨entry, hmem, hcount⟩
      · rw [hdefault]
        exact writable_default.maxHeaderBytes
      · exact le_of_count? hcount (hnumbers entry hmem)
    · rw [hseconds] at htimeout
      rcases setting?_eq_some htimeout with hdefault | ⟨entry, hmem, hcount⟩
      · cases hdefault
      · obtain ⟨n, hn, he⟩ := Option.map_eq_some_iff.1 hcount
        cases he
        exact le_of_count? hn (hnumbers entry hmem)
  · cases h

/-- Settings whose numbers can be written are read back from what they are written as, unless something is wrong
with them: then that is what the reader says. And all that is ever read can be written, and is read back
unchanged. -/
theorem parse_print {format : Toml.Format} {schema : Schema} (ht : format.Lawful) (hs : schema.Lawful) :
    (∀ settings : Settings, settings.maxHeaderBytes ≤ 2 ^ 63 - 1 →
      (∀ seconds, settings.headerReadTimeout = some seconds → seconds ≤ 2 ^ 63 - 1) →
      ∃ text, settings.printBy? format schema = some text ∧
        parseBy format schema text = match settings.problem? with
          | none => .ok settings
          | some problem => .error (.invalid problem)) ∧
    ∀ text settings, parseBy format schema text = .ok settings →
      ∃ again, settings.printBy? format schema = some again ∧ parseBy format schema again = .ok settings := by
  refine ⟨fun settings hlimit htimeout => ?_, fun text settings hread => ?_⟩
  · have h : settings.Writable := ⟨hlimit, htimeout⟩
    refine ⟨_, printBy?_eq ht hs h, ?_⟩
    rw [parseBy_lines ht hs h, validate]
    cases settings.problem? with
    | none => rfl
    | some problem => rfl
  · obtain ⟨hwritable, hvalid⟩ := of_parseBy ht hs hread
    exact ⟨_, printBy?_eq ht hs hwritable, (parseBy_lines ht hs hwritable).trans hvalid⟩

/-- An address with a scope and two runs of zeros, and a time limit that is refused. -/
theorem parse_print_scoped :
    let settings : Settings :=
      { listen := .v6 ⟨[0xfe80, 0, 0, 1, 0, 0, 0, 1], rfl⟩ 3 8080, headerReadTimeout := some 0 }
    let text := ("listen = \"[fe80:0:0:1::1%3]:8080\"\nmax_header_bytes = 1048576\nkeep_alive = true\n" ++
      "header_read_timeout_secs = 0\n").toList
    settings.print? = some text ∧ parse text = .error (.invalid .timeoutZero) := by
  intro settings text
  have hprint : settings.print? = some text := by decide +kernel
  obtain ⟨written, hwritten, hparse⟩ := (parse_print Toml.format_lawful schema_lawful).1 settings (by decide)
    fun seconds h => by cases h; decide
  obtain rfl : text = written := Option.some.inj (hprint.symm.trans hwritten)
  exact ⟨hprint, hparse⟩

end Settings

end Courier
