import Courier.Address.Printer
import Courier.Address.Reader
import Courier.Proofs.Numbers

/-!
# Written addresses are read back

Every socket address is read back from its written form (`SocketAddress.parse?_print`). In an address of version 6
what is written in place of the longest run of zero groups is where the reader finds groups missing, and it fills
in just as many; no group is taken for the form of version 4 but the one that is written so.
-/

namespace Courier

open Text

theorem takeChar?_cons (c : Char) (text : List Char) : takeChar? c (c :: text) = some text := by
  simp [takeChar?]

theorem takeChar?_eq_none {c : Char} {text : List Char} (h : text.head? ≠ some c) : takeChar? c text = none := by
  cases text with
  | nil => rfl
  | cons d text => simpa [takeChar?, eq_comm] using h

/-! ### Version 4 -/

namespace Ipv4

variable {text : List Char}

theorem read?_octet (octet : UInt8) (hr : Ends 10 text) :
    octetForm.read? (digitsOf 10 octet.toNat ++ text) = some (octet.toNat, text) := by
  have hlt := octet.toNat_lt
  refine octetForm.read?_digitsOf (by decide) (by decide) (fun most hm => ?_) hlt hr
  cases hm
  exact ⟨by decide, Nat.lt_trans hlt (by decide)⟩

theorem ends_dot (text : List Char) : Ends 10 ('.' :: text) := ends_cons (by decide)

theorem read?_print (ip : Ipv4) (hr : Ends 10 text) : read? (ip.print ++ text) = some (ip, text) := by
  simp only [print, read?, List.append_assoc, List.cons_append, read?_octet _ (ends_dot _), read?_octet _ hr,
    takeChar?_cons, Option.bind_eq_bind, Option.bind_some, UInt8.ofNat_toNat]

/-- Without a dot behind its first digits a text is no address of version 4. -/
theorem read?_eq_none (h : (text.dropWhile (isDigit 10)).head? ≠ some '.') : read? text = none := by
  unfold read?
  cases hr : octetForm.read? text with
  | none => rfl
  | some first =>
    obtain ⟨a, rest⟩ := first
    unfold NumberForm.read? at hr
    obtain ⟨-, hr⟩ := Option.ite_none_right_eq_some.1 hr
    cases hr
    have hdot : takeChar? '.' (text.dropWhile (isDigit octetForm.base)) = none := takeChar?_eq_none h
    simp [hdot]

theorem toGroups_ofGroups (high low : UInt16) : (ofGroups high low).toGroups = [high, low] := by
  have hhigh := high.toNat_lt
  have hlow := low.toNat_lt
  unfold ofGroups toGroups
  have hdiv (n : Nat) (hn : n < 65536) : (UInt8.ofNat (n / 256)).toNat * 256 + (UInt8.ofNat (n % 256)).toNat = n := by
    rw [UInt8.toNat_ofNat', UInt8.toNat_ofNat']
    omega
  rw [hdiv _ hhigh, hdiv _ hlow, UInt16.ofNat_toNat, UInt16.ofNat_toNat]

end Ipv4

/-! ### Version 6 -/

namespace Ipv6

variable {groups : List UInt16} {text more : List Char}

/-- The groups behind a first one, each with its colon. -/
def printMore (groups : List UInt16) : List Char := groups.flatMap fun group => ':' :: digitsOf 16 group.toNat

theorem printGroups_cons (group : UInt16) (groups : List UInt16) :
    printGroups (group :: groups) = digitsOf 16 group.toNat ++ printMore groups := by
  induction groups generalizing group with
  | nil => simp [printGroups, printMore]
  | cons next groups ih => simp [printGroups, ih, printMore]

/-- No group goes on in the text, and none in the form of version 4 ends there. -/
def EndsGroup (text : List Char) : Prop := Ends 16 text ∧ text.head? ≠ some '.'

/-- No further group is in the text. -/
def EndsGroups (text : List Char) : Prop :=
  EndsGroup text ∧ ∀ more, text = ':' :: more → EndsGroup more

theorem endsGroup_colon (text : List Char) : EndsGroup (':' :: text) := ⟨ends_cons (by decide), by simp⟩

theorem endsGroups_colons (text : List Char) : EndsGroups (':' :: ':' :: text) := by
  refine ⟨endsGroup_colon _, fun more h => ?_⟩
  cases h
  exact endsGroup_colon _

theorem endsGroups_of_ne {c : Char} (hd : isDigit 16 c = false) (hdot : c ≠ '.') (hcolon : c ≠ ':') :
    EndsGroups (c :: text) := by
  refine ⟨⟨ends_cons hd, by simpa using hdot⟩, fun more h => ?_⟩
  cases h
  exact absurd rfl hcolon

theorem endsGroup_printMore (groups : List UInt16) (h : EndsGroup text) : EndsGroup (printMore groups ++ text) := by
  cases groups with
  | nil => exact h
  | cons => exact endsGroup_colon _

theorem read?_group (group : UInt16) (hr : Ends 16 text) :
    groupForm.read? (digitsOf 16 group.toNat ++ text) = some (group.toNat, text) := by
  refine groupForm.read?_digitsOf (by decide) (by decide) (fun most hm => ?_) group.toNat_lt hr
  cases hm
  exact ⟨by decide, group.toNat_lt⟩

theorem isDigit_ten_of_sixteen {c : Char} (h : isDigit 16 c = false) : isDigit 10 c = false := by
  -- the value of the character is the same, and compared with another base
  simp only [isDigit, digitValue?, Option.isSome_filter, Bool.eq_false_iff] at h ⊢
  intro hten
  obtain ⟨value, hv, hlt⟩ := (Option.any_eq_true _ _).1 hten
  refine h ((Option.any_eq_true _ _).2 ⟨value, hv, decide_eq_true ?_⟩)
  exact Nat.lt_trans (of_decide_eq_true hlt) (by decide)

/-- What follows a run of digits of base 16 and is no dot follows any digits of base 10 in front of it. -/
theorem head?_dropWhile_ne_dot {digits : List Char} (hd : ∀ c ∈ digits, isDigit 16 c = true) (h : EndsGroup text) :
    ((digits ++ text).dropWhile (isDigit 10)).head? ≠ some '.' := by
  induction digits with
  | nil =>
    cases text with
    | nil => simp
    | cons c text => simpa [isDigit_ten_of_sixteen (h.1 c rfl)] using h.2
  | cons c digits ih =>
    rw [List.cons_append, List.dropWhile_cons]
    split
    · exact ih fun c hc => hd c (List.mem_cons_of_mem _ hc)
    · have hc := hd c (List.mem_cons_self ..)
      intro he
      cases he
      exact absurd hc (by decide)

theorem not_v4_group (group : UInt16) (h : EndsGroup text) :
    Ipv4.read? (digitsOf 16 group.toNat ++ text) = none :=
  Ipv4.read?_eq_none (head?_dropWhile_ne_dot (fun _ => isDigit_of_mem_digitsOf (by decide) (by decide)) h)

theorem readGroups_nil {room : Nat} {leads : Bool}
    (h : ∀ start, (if leads then some text else takeChar? ':' text) = some start → EndsGroup start) :
    readGroups room leads text = ⟨[], false, text⟩ := by
  cases room with
  | zero => rfl
  | succ room =>
    unfold readGroups
    dsimp only
    cases hs : (if leads then some text else takeChar? ':' text) with
    | none => simp
    | some start =>
      have hstart := h start hs
      have hv4 : Ipv4.read? ([] ++ start) = none := Ipv4.read?_eq_none (head?_dropWhile_ne_dot (by simp) hstart)
      have hgroup : groupForm.read? start = none := groupForm.read?_of_ends hstart.1
      rw [List.nil_append] at hv4
      simp [hv4, hgroup]

theorem readGroups_cons {room : Nat} (leads : Bool) (text : List Char) (group : UInt16) (h : EndsGroup more)
    (hs : (if leads then some text else takeChar? ':' text) = some (digitsOf 16 group.toNat ++ more)) :
    readGroups (room + 1) leads text =
      ⟨group :: (readGroups room false more).groups, (readGroups room false more).embedded,
        (readGroups room false more).rest⟩ := by
  conv_lhs => unfold readGroups
  dsimp only
  rw [hs]
  simp [not_v4_group group h, read?_group group h.1]

theorem readGroups_printMore {room : Nat} (hl : groups.length ≤ room) (h : EndsGroups text) :
    readGroups room false (printMore groups ++ text) = ⟨groups, false, text⟩ := by
  induction groups generalizing room with
  | nil =>
    refine readGroups_nil fun start hs => ?_
    cases text with
    | nil => cases hs
    | cons c text =>
      simp only [Bool.false_eq_true, if_false, printMore, List.flatMap_nil, List.nil_append, takeChar?] at hs
      split at hs
      · rename_i hc
        cases hs
        exact h.2 _ (by rw [hc])
      · cases hs
  | cons group groups ih =>
    obtain ⟨room, rfl⟩ : ∃ k, room = k + 1 := ⟨room - 1, by simp at hl; omega⟩
    have htext : printMore (group :: groups) ++ text =
        ':' :: (digitsOf 16 group.toNat ++ (printMore groups ++ text)) := by simp [printMore]
    have hstart : takeChar? ':' (printMore (group :: groups) ++ text) =
        some (digitsOf 16 group.toNat ++ (printMore groups ++ text)) := by
      rw [htext]
      exact takeChar?_cons ..
    rw [readGroups_cons false (printMore (group :: groups) ++ text) group (endsGroup_printMore groups h.1) hstart,
      ih (by simpa using hl)]

/-- Written groups are read back, if there is room for them. -/
theorem readGroups_printGroups {room : Nat} (hl : groups.length ≤ room) (h : EndsGroups text) :
    readGroups room true (printGroups groups ++ text) = ⟨groups, false, text⟩ := by
  cases groups with
  | nil =>
    refine readGroups_nil fun start hs => ?_
    cases hs
    exact h.1
  | cons group groups =>
    obtain ⟨room, rfl⟩ : ∃ k, room = k + 1 := ⟨room - 1, by simp at hl; omega⟩
    rw [printGroups_cons, List.append_assoc, readGroups_cons true _ group (endsGroup_printMore groups h.1) rfl,
      readGroups_printMore (by simpa using hl) h]

/-- Eight groups that are all written are read back. -/
theorem read?_full (ip : Ipv6) (h : EndsGroups text) :
    read? (printGroups ip.groups ++ text) = some (ip, text) := by
  unfold read?
  rw [readGroups_printGroups (Nat.le_of_eq ip.length_eq) h]
  simp [ip.length_eq, ofGroups?]

/-- Groups of which a run of zeros is left out are read back. -/
theorem read?_short {left right : List UInt16} {zeros : Nat} {found : Groups} {ip : Ipv6} (hz : 0 < zeros)
    (hg : ip.groups = left ++ List.replicate zeros 0 ++ right)
    (hr : readGroups (7 - left.length) true more = found) (hfound : found.groups = right) :
    read? (printGroups left ++ ':' :: ':' :: more) = some (ip, found.rest) := by
  have hlength := ip.length_eq
  rw [hg] at hlength
  simp only [List.length_append, List.length_replicate] at hlength
  unfold read?
  rw [readGroups_printGroups (by omega) (endsGroups_colons more)]
  dsimp only
  rw [if_neg (by omega)]
  have hmissing : 8 - left.length - right.length = zeros := by omega
  have hsome : ofGroups? (left ++ List.replicate zeros 0 ++ right) = some ip := by
    rw [← hg]
    exact dif_pos ip.length_eq
  simp only [guard, Bool.not_false, if_true, takeChar?_cons, Option.pure_def, Option.bind_eq_bind, Option.bind_some,
    hr, hfound, hmissing, hsome]

/-- The runs that are compared are runs of zeros. -/
theorem le_zerosAhead_longestZeros (groups : List UInt16) :
    (longestZeros groups).2 ≤ zerosAhead (groups.drop (longestZeros groups).1) := by
  unfold longestZeros
  refine List.foldlRecOn (motive := fun best : Nat × Nat => best.2 ≤ zerosAhead (groups.drop best.1)) _ _ ?_ ?_
  · exact Nat.zero_le _
  · intro best hbest start _
    dsimp only
    split
    · exact Nat.le_refl _
    · exact hbest

theorem take_of_le_zerosAhead {n : Nat} (h : n ≤ zerosAhead groups) : groups.take n = List.replicate n 0 := by
  refine List.eq_replicate_iff.2 ⟨?_, fun group hg => ?_⟩
  · have hle : zerosAhead groups ≤ groups.length := (List.takeWhile_sublist _).length_le
    simp only [List.length_take]
    omega
  · have hpre : groups.take n <+: groups.takeWhile (· = 0) :=
      List.prefix_of_prefix_length_le (List.take_prefix ..) (List.takeWhile_prefix ..)
        (Nat.le_trans (List.length_take_le ..) h)
    simpa using List.all_eq_true.1 List.all_takeWhile group (hpre.subset hg)

theorem groups_eq_longestZeros (groups : List UInt16) :
    groups = groups.take (longestZeros groups).1 ++ List.replicate (longestZeros groups).2 0 ++
      groups.drop ((longestZeros groups).1 + (longestZeros groups).2) := by
  rw [← take_of_le_zerosAhead (le_zerosAhead_longestZeros groups), List.append_assoc, ← List.drop_drop,
    List.take_append_drop, List.take_append_drop]

theorem mapped?_eq_some {ip : Ipv6} {v4 : Ipv4} (h : ip.mapped? = some v4) :
    ip.groups = [] ++ List.replicate 5 0 ++ 0xffff :: v4.toGroups := by
  unfold mapped? at h
  split at h
  · rename_i high low hg
    cases h
    rw [hg, Ipv4.toGroups_ofGroups]
    rfl
  · cases h

/-- A group in front of the form of version 4. -/
theorem readGroups_mapped (v4 : Ipv4) (h : EndsGroup text) :
    readGroups 7 true ("ffff:".toList ++ v4.print ++ text) = ⟨0xffff :: v4.toGroups, true, text⟩ := by
  have hends : Ends 10 text := fun c hc => isDigit_ten_of_sixteen (h.1 c hc)
  have htail : readGroups 6 false (':' :: (v4.print ++ text)) = ⟨v4.toGroups, true, text⟩ := by
    simp [readGroups, takeChar?_cons, Ipv4.read?_print v4 hends]
  have hdigits : "ffff:".toList ++ v4.print ++ text =
      digitsOf 16 (0xffff : UInt16).toNat ++ ':' :: (v4.print ++ text) := by
    have hffff : digitsOf 16 (0xffff : UInt16).toNat = "ffff".toList := by decide
    rw [hffff]
    simp
  rw [hdigits, readGroups_cons true _ 0xffff (endsGroup_colon _) rfl, htail]

theorem read?_print (ip : Ipv6) (h : EndsGroups text) : read? (ip.print ++ text) = some (ip, text) := by
  unfold print
  cases hm : ip.mapped? with
  | some v4 =>
    have htext : "::ffff:".toList ++ v4.print ++ text =
        printGroups [] ++ ':' :: ':' :: ("ffff:".toList ++ v4.print ++ text) := rfl
    dsimp only
    rw [htext]
    exact read?_short (by decide) (mapped?_eq_some hm) (readGroups_mapped v4 h.1) rfl
  | none =>
    dsimp only
    have hg := groups_eq_longestZeros ip.groups
    generalize longestZeros ip.groups = run at hg ⊢
    obtain ⟨start, zeros⟩ := run
    dsimp only at hg ⊢
    split
    · rename_i hz
      have hlength := congrArg List.length hg
      simp only [ip.length_eq, List.length_append, List.length_replicate] at hlength
      rw [List.append_assoc, List.cons_append, List.cons_append]
      exact read?_short (by omega) hg (readGroups_printGroups (by omega) h) rfl
    · exact read?_full ip h

end Ipv6

/-! ### With a port -/

namespace SocketAddress

theorem readPort?_print (port : UInt16) :
    readPort? (':' :: digitsOf 10 port.toNat) = some (port, []) := by
  have hport : portForm.read? (digitsOf 10 port.toNat ++ []) = some (port.toNat, []) :=
    portForm.read?_digitsOf (by decide) (by decide) nofun port.toNat_lt ends_nil
  rw [List.append_nil] at hport
  simp [readPort?, takeChar?_cons, hport]

theorem readScope_print (scope : UInt32) (text : List Char) :
    readScope ((if scope = 0 then [] else '%' :: digitsOf 10 scope.toNat) ++ ']' :: text) = (scope, ']' :: text) := by
  by_cases hzero : scope = 0
  · simp [readScope, hzero, takeChar?]
  · have hscope : scopeForm.read? (digitsOf 10 scope.toNat ++ ']' :: text) = some (scope.toNat, ']' :: text) :=
      scopeForm.read?_digitsOf (by decide) (by decide) nofun scope.toNat_lt (ends_cons (by decide))
    rw [if_neg hzero, List.cons_append, readScope, takeChar?_cons, Option.bind_some, hscope]
    simp

theorem readV4?_print (ip : Ipv4) (port : UInt16) : readV4? (v4 ip port).print = some (v4 ip port, []) := by
  have hread : Ipv4.read? (ip.print ++ ':' :: digitsOf 10 port.toNat) = some (ip, ':' :: digitsOf 10 port.toNat) :=
    ip.read?_print (ends_cons (by decide))
  simp [print, readV4?, hread, readPort?_print]

theorem readV6?_print (ip : Ipv6) (scope : UInt32) (port : UInt16) :
    readV6? (v6 ip scope port).print = some (v6 ip scope port, []) := by
  have hends : Ipv6.EndsGroups ((if scope = 0 then [] else '%' :: digitsOf 10 scope.toNat) ++
      ']' :: ':' :: digitsOf 10 port.toNat) := by
    split
    · exact Ipv6.endsGroups_of_ne (by decide) (by decide) (by decide)
    · exact Ipv6.endsGroups_of_ne (by decide) (by decide) (by decide)
  simp only [print, readV6?, List.cons_append, List.append_assoc, takeChar?_cons, Option.bind_eq_bind,
    Option.bind_some, ip.read?_print hends, readScope_print, readPort?_print]

/-- No address of version 6 begins like one of version 4. -/
theorem readV4?_bracket (text : List Char) : readV4? ('[' :: text) = none := by
  have hends : Ends octetForm.base ('[' :: text) := ends_cons (by decide)
  simp [readV4?, Ipv4.read?, octetForm.read?_of_ends hends]

theorem parse?_print (address : SocketAddress) : parse? address.print = some address := by
  cases address with
  | v4 ip port => simp [parse?, readV4?_print]
  | v6 ip scope port =>
    have hnone : readV4? (v6 ip scope port).print = none := readV4?_bracket _
    simp [parse?, hnone, readV6?_print]

end SocketAddress

end Courier
