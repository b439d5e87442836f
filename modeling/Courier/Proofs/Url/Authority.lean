import Courier.Proofs.Failing
import Courier.Proofs.Text.Utf8
import Courier.Url.Parser

/-!
Authorities do not end in blanks.  At the ends of a text blanks and controls are dropped, but where
they have come to stand behind the authority they are part of its host or of its port: a host that
holds one is refused, also after what is percent-encoded in it was decoded, and so is such a port.
-/

namespace Courier

open Text (Bytes)

namespace Url

variable {c : Char} {cs : List Char}

/-! ### Blanks and controls -/

lemma isOuter_iff : isOuter c = true ↔ c.toNat ≤ 0x20 := by
  unfold isOuter
  exact decide_eq_true_iff

lemma ne_of_isOuter (h : isOuter c = true) {d : Char} (hd : isOuter d = false) : c ≠ d := by
  rintro rfl
  rw [h] at hd
  cases hd

lemma isDigit_of_isOuter (h : isOuter c = true) : c.isDigit = false := by
  have hsmall := isOuter_iff.mp h
  rw [Bool.eq_false_iff]
  intro hdigit
  unfold Char.isDigit at hdigit
  simp only [Bool.and_eq_true, decide_eq_true_eq] at hdigit
  have hlow : 48 ≤ c.toNat := hdigit.1
  omega

lemma toLower_of_isOuter (h : isOuter c = true) : c.toLower = c := by
  have hsmall := isOuter_iff.mp h
  have hletter : ¬(c.val ≥ 'A'.val ∧ c.val ≤ 'Z'.val) := by
    rintro ⟨hcapital, -⟩
    have hlow : 65 ≤ c.toNat := hcapital
    omega
  exact dif_neg hletter

/-- They are bytes of their own, which belong to no percent-encoded byte. -/
lemma byte_of_le : ∀ n ≤ 0x20, Percent.hexValue? (Text.Utf8.byte n) = none ∧
    Text.Utf8.byte n ≠ 37 ∧ (Text.Utf8.byte n).toNat = n := by
  decide

/-! ### Decoding -/

namespace Percent

/-- A byte at the end that is no part of a written one is kept by decoding. -/
lemma mem_decodeAfter_append {b : UInt8} (hmark : b ≠ 37) (hdigit : hexValue? b = none)
    (bs : Bytes) : ∀ k ≤ bs.length, b ∈ decodeAfter k (bs ++ [b]) := by
  induction bs with
  | nil =>
    intro k hk
    obtain rfl : k = 0 := Nat.le_zero.mp hk
    rw [List.nil_append, decodeAfter, if_neg hmark]
    exact List.mem_cons_self
  | cons a as ih =>
    intro k hk
    cases k with
    | succ k => exact ih k (Nat.le_of_succ_le_succ hk)
    | zero =>
      rw [List.cons_append, decodeAfter]
      split
      next x hx =>
        refine List.mem_cons_of_mem _ (ih 2 ?_)
        -- the two digits stand before the end
        have hpair : pair? (as ++ [b]) = some x := by
          split at hx
          · exact hx
          · cases hx
        rcases as with _ | ⟨h, _ | ⟨l, as⟩⟩
        · cases hpair
        · unfold pair? at hpair
          simp [hdigit] at hpair
        · simp
      next => exact List.mem_cons_of_mem _ (ih 0 (Nat.zero_le _))

end Percent

/-- A blank or a control at the end of a host is there after decoding. -/
lemma mem_decoded (h : isOuter c = true) (front : List Char) :
    c ∈ (Text.Utf8.toStringLossy (Percent.decode (Text.Utf8.encode (front ++ [c])))).toList := by
  have hc := isOuter_iff.mp h
  obtain ⟨hdigit, hmark, hbyte⟩ := byte_of_le _ hc
  have hencode : Text.Utf8.encode (front ++ [c]) =
      Text.Utf8.encode front ++ [Text.Utf8.byte c.toNat] := by
    rw [Text.Utf8.encode_append, Text.Utf8.encode_cons, Text.Utf8.encodeChar_of_ascii (by omega)]
    rfl
  have hmem := Percent.mem_decodeAfter_append hmark hdigit (Text.Utf8.encode front) 0 (Nat.zero_le _)
  have hchar := Text.Utf8.mem_toStringLossy hmem (by omega)
  rw [hbyte, Char.ofNat_toNat] at hchar
  rwa [hencode]

/-! ### Names, hosts and ports -/

/-- No name has a blank or a control in it. -/
lemma Domain.toAscii?_of_isOuter (h : isOuter c = true) (hc : c ∈ cs) : toAscii? cs = none := by
  have hlower := toLower_of_isOuter h
  have hsmall := isOuter_iff.mp h
  have hdenied : denied c = true := by
    unfold denied
    simp [hsmall]
  unfold toAscii?
  split
  · have hany : (cs.map Char.toLower).any denied = true :=
      List.any_eq_true.mpr ⟨c, hlower ▸ List.mem_map_of_mem hc, hdenied⟩
    exact if_pos hany
  · have hmapped : c ∈ cs.flatMap Mapping.apply := by
      refine List.mem_flatMap.mpr ⟨c, hc, ?_⟩
      unfold Mapping.apply
      dsimp only
      rw [if_pos (by omega), hlower]
      exact List.mem_singleton_self c
    have hallowed : allowed c = false := by
      unfold allowed
      rw [if_pos (by omega), hdenied]
      rfl
    have hall : (!(cs.flatMap Mapping.apply).all allowed) = true := by
      simp only [Bool.not_eq_true', List.all_eq_false]
      exact ⟨c, hmapped, by simp [hallowed]⟩
    unfold mappedToAscii?
    dsimp only
    rw [if_pos hall]
    rfl

lemma readHost_of_isOuter (h : isOuter c = true) (front : List Char) (host : Host) :
    readHost (front ++ [c]) ≠ .ok host := by
  have hbracket : c ≠ ']' := ne_of_isOuter h rfl
  intro hread
  unfold readHost at hread
  split at hread
  · unfold bracketHost at hread
    rw [List.getLast?_concat, if_neg (by simpa using hbracket)] at hread
    cases hread
  · dsimp only at hread
    rw [Domain.toAscii?_of_isOuter h (mem_decoded h front)] at hread
    cases hread

lemma readPort_of_isOuter (h : isOuter c = true) (hc : c ∈ cs) (default : Option Nat) :
    readPort default cs = .error .invalidPort := by
  have hall : (!cs.all Char.isDigit) = true := by
    simp only [Bool.not_eq_true', List.all_eq_false]
    exact ⟨c, hc, by simp [isDigit_of_isOuter h]⟩
  unfold readPort
  exact if_pos hall

/-! ### Authorities -/

/-- The text behind the user ends as the whole does. -/
lemma splitUser_append (hc : c ≠ '@') (front : List Char) :
    ∃ front', (splitUser (front ++ [c])).2 = front' ++ [c] := by
  unfold splitUser
  dsimp only
  split
  · refine ⟨(front.reverse.takeWhile (· ≠ '@')).reverse, ?_⟩
    rw [List.reverse_append, List.reverse_singleton, List.singleton_append,
      List.takeWhile_cons_of_pos (by simpa using hc), List.reverse_cons]
  · exact ⟨front, rfl⟩

/-- A host and what follows it are the whole text, and a colon stands between them. -/
lemma splitHost_spec (bracket : Bool) (cs : List Char) :
    cs = (splitHost bracket cs).1 ++ (splitHost bracket cs).2 ∧
      ∀ c ∈ (splitHost bracket cs).2.head?, c = ':' := by
  induction cs generalizing bracket with
  | nil => exact ⟨rfl, nofun⟩
  | cons c cs ih =>
    unfold splitHost
    split
    next h =>
      refine ⟨rfl, fun d hd => ?_⟩
      cases hd
      exact h.1
    next =>
      dsimp only
      exact ⟨congrArg (c :: ·) (ih _).1, (ih _).2⟩

/-- **An authority does not end in a blank or a control.** -/
theorem readAuthority_of_isOuter (h : isOuter c = true) (scheme : Scheme) (front : List Char)
    (a : Authority) : readAuthority scheme (front ++ [c]) ≠ .ok a := by
  intro hread
  obtain ⟨front', hback⟩ := splitUser_append (ne_of_isOuter h rfl) front
  obtain ⟨hwhole, hhead⟩ := splitHost_spec false (front' ++ [c])
  unfold readAuthority at hread
  dsimp only at hread
  rw [hback] at hread
  obtain ⟨-, hread⟩ := guard_eq_ok_iff.mp hread
  obtain ⟨host, hhost, hread⟩ := bind_eq_ok_iff.mp hread
  obtain ⟨port, hport, -⟩ := bind_eq_ok_iff.mp hread
  generalize (splitHost false (front' ++ [c])).1 = hostText at hwhole hhost
  generalize (splitHost false (front' ++ [c])).2 = rest at hwhole hhead hport
  cases rest with
  | nil =>
    rw [List.append_nil] at hwhole
    rw [← hwhole] at hhost
    exact readHost_of_isOuter h front' host hhost
  | cons d rest =>
    obtain rfl : d = ':' := hhead d rfl
    rcases rest.eq_nil_or_concat with rfl | ⟨init, last, rfl⟩
    · exact ne_of_isOuter h (d := ':') rfl (List.singleton_inj.mp (List.append_inj' hwhole rfl).2)
    · rw [List.concat_eq_append, ← List.cons_append, ← List.append_assoc] at hwhole
      obtain rfl := List.singleton_inj.mp (List.append_inj' hwhole rfl).2
      have hmem : c ∈ (':' :: init.concat c).drop 1 := by simp
      rw [readPort_of_isOuter h hmem] at hport
      cases hport

end Url

end Courier
