import Courier.Proofs.Json.Fields
import Courier.Proofs.Json.Records
import Courier.Settings.Basic

/-!
The text of settings holds all of them: what is written of any settings, in the indented form of a
settings file, is read back as those settings.  What is read of any object is its members, where it
has them, and else the default ones.
-/

namespace Courier.Settings

open Json (Members Reads)
open Text.Utf8 (encode ofString)

variable {s : Settings}

/-- No key of the settings is that of another member. -/
lemma nodup_keys (s : Settings) : (s.members.map Prod.fst).Nodup := by
  show ["base_url", "request_timeout_ms", "max_concurrent_requests", "user_agent",
    "success_status"].Nodup
  decide

/-- Each member of the settings is read by its field. -/
lemma reads_members (s : Settings) : Reads shape.scan 0 (.obj s.members) := by
  have htimeout : s.timeoutMs.toNat < 18446744073709551616 := s.timeoutMs.toNat_lt
  have hstatus : s.successStatus.toNat < 65536 := s.successStatus.toNat_lt
  have hcap : ∀ n ∈ s.maxConcurrent.map UInt64.toNat, (n : Int) ≤ 18446744073709551615 ∧
      n ≤ Json.maxUnsigned := by
    intro n hn
    obtain ⟨m, -, rfl⟩ := Option.map_eq_some_iff.mp hn
    have hm : m.toNat < 18446744073709551616 := m.toNat_lt
    exact ⟨by omega, Nat.le_of_lt_succ hm⟩
  have hoptional : s.maxConcurrent.elim Json.null (fun n => .nat n.toNat) =
      (s.maxConcurrent.map UInt64.toNat).elim .null .nat := by
    cases s.maxConcurrent <;> rfl
  refine Json.reads_record (.cons ⟨rfl, ?_⟩ (.cons ⟨rfl, ?_⟩ (.cons ⟨rfl, ?_⟩ (.cons ⟨rfl, ?_⟩
    (.cons ⟨rfl, ?_⟩ .nil))))) ?_ nofun
  · exact Json.reads_optional_text 1 s.baseUrl
  · exact Json.reads_integer 1 (by omega) (Nat.le_of_lt_succ htimeout)
  · dsimp only
    rw [hoptional]
    exact Json.reads_optional_integer 1 _ hcap
  · exact Json.reads_text 1 s.userAgent
  · exact Json.reads_integer 1 (by omega) (Nat.le_of_lt_succ (Nat.lt_trans hstatus (by decide)))
  · exact nodup_keys s

/-- The members of settings are those settings. -/
lemma ofShaped_members (s : Settings) : ofShaped (.obj s.members) = some s := by
  obtain ⟨baseUrl, timeoutMs, maxConcurrent, userAgent, successStatus⟩ := s
  have hread : ofShaped (.obj (members ⟨baseUrl, timeoutMs, maxConcurrent, userAgent,
      successStatus⟩)) = some ⟨baseUrl, .ofNat timeoutMs.toNat,
        (maxConcurrent.map UInt64.toNat).map .ofNat, userAgent, .ofNat successStatus.toNat⟩ := by
    cases baseUrl <;> cases maxConcurrent <;> rfl
  rw [hread]
  cases maxConcurrent <;> simp

/-- **Reading undoes writing** for all settings. -/
theorem ofText_pretty (s : Settings) : ofText (ofString s.pretty) = .ok s := by
  have hread := reads_members s [] [] (fun _ hb => absurd hb List.not_mem_nil) nofun
  rw [List.nil_append, List.append_nil] at hread
  have htext : ofString s.pretty = encode (Json.prettyChars 0 (.obj s.members)) := by
    unfold pretty Json.pretty ofString
    rw [String.toList_ofList]
  have hwhole : Json.whole shape.scan (ofString s.pretty) = .ok (.obj s.members) := by
    unfold Json.whole
    rw [htext, hread]
    rfl
  unfold ofText Json.readWith
  rw [hwhole]
  show Except.ok ((ofShaped (.obj s.members)).getD {}) = _
  rw [ofShaped_members]
  rfl

/-- Different settings have different texts. -/
lemma ofString_pretty_inj {t : Settings} (h : ofString s.pretty = ofString t.pretty) : s = t := by
  have hread := congrArg ofText h
  rw [ofText_pretty, ofText_pretty] at hread
  exact Except.ok.inj hread

/-! ### Any object -/

section Object

variable {bs rest rest' : Text.Bytes} {depth : Nat} {w : Json} {ms : Members}

/-- Some settings have the value at the key. -/
def Writes (k : String) (v : Json) : Prop := ∃ s : Settings, (k, v) ∈ s.members

/-- Settings have one value at a key. -/
lemma value_unique {k : String} {v v' : Json} (h : (k, v) ∈ s.members) (h' : (k, v') ∈ s.members) :
    v = v' := by
  have hnodup : (s.members.map Prod.fst).Nodup := nodup_keys s
  exact Option.some.inj ((Json.get_of_mem hnodup h).symm.trans (Json.get_of_mem hnodup h'))

/-- Values at the keys of settings, each of which some settings have there, are those of settings. -/
lemma exists_members (value : String × Json → Json)
    (h : ∀ m ∈ ({} : Settings).members, Writes m.1 (value m)) :
    ∃ s : Settings, s.members = ({} : Settings).members.map fun m => (m.1, value m) := by
  obtain ⟨⟨s₁, h₁⟩, h⟩ := List.forall_mem_cons.mp h
  obtain ⟨⟨s₂, h₂⟩, h⟩ := List.forall_mem_cons.mp h
  obtain ⟨⟨s₃, h₃⟩, h⟩ := List.forall_mem_cons.mp h
  obtain ⟨⟨s₄, h₄⟩, h⟩ := List.forall_mem_cons.mp h
  obtain ⟨⟨s₅, h₅⟩, -⟩ := List.forall_mem_cons.mp h
  refine ⟨⟨s₁.baseUrl, s₂.timeoutMs, s₃.maxConcurrent, s₄.userAgent, s₅.successStatus⟩, ?_⟩
  replace h₁ := value_unique h₁ (.head _)
  replace h₂ := value_unique h₂ (.tail _ (.head _))
  replace h₃ := value_unique h₃ (.tail _ (.tail _ (.head _)))
  replace h₄ := value_unique h₄ (.tail _ (.tail _ (.tail _ (.head _))))
  replace h₅ := value_unique h₅ (.tail _ (.tail _ (.tail _ (.tail _ (.head _)))))
  simp only [members, List.map_cons, List.map_nil, h₁, h₂, h₃, h₄, h₅]

lemma nat_ofNat64 {i : Int} (hlow : 0 ≤ i) (hhigh : i ≤ 18446744073709551615) :
    Json.nat (UInt64.ofNat i.toNat).toNat = .int i := by
  have hlt : i.toNat < UInt64.size := by
    unfold UInt64.size
    omega
  unfold Json.nat
  rw [UInt64.toNat_ofNat_of_lt' hlt, Int.toNat_of_nonneg hlow]

lemma nat_ofNat16 {i : Int} (hlow : 0 ≤ i) (hhigh : i ≤ 65535) :
    Json.nat (UInt16.ofNat i.toNat).toNat = .int i := by
  have hlt : i.toNat < UInt16.size := by
    unfold UInt16.size
    omega
  unfold Json.nat
  rw [UInt16.toNat_ofNat_of_lt' hlt, Int.toNat_of_nonneg hlow]

/-- What the text of an object is read as: its members where it has them, each of which some settings
write there, and else the default ones. -/
lemma obj_of_scan (hv : Json.value (depth + 1) bs = .ok (.obj ms, rest))
    (hw : shape.scan bs = .ok (w, rest')) :
    (∀ m ∈ ({} : Settings).members, ∀ v ∈ ms.get? m.1, Writes m.1 v) ∧
      w = .obj (({} : Settings).members.map fun m => (m.1, (ms.get? m.1).getD m.2)) := by
  refine (Json.record_of_object (List.forall_mem_cons.mpr ⟨?_, List.forall_mem_cons.mpr ⟨?_,
    List.forall_mem_cons.mpr ⟨?_, List.forall_mem_cons.mpr ⟨?_, List.forall_mem_cons.mpr ⟨?_,
    List.forall_mem_nil _⟩⟩⟩⟩⟩) rfl hv hw).2
  · refine (Json.verbatim_text.optional).mono ?_
    rintro v (rfl | ⟨t, rfl⟩)
    · exact ⟨{}, .head _⟩
    · exact ⟨{ baseUrl := some t }, .head _⟩
  · refine Json.verbatim_integer.mono ?_
    rintro v ⟨i, hlow, hhigh, rfl⟩
    rw [← nat_ofNat64 hlow hhigh]
    exact ⟨{ timeoutMs := .ofNat i.toNat }, .tail _ (.head _)⟩
  · refine (Json.verbatim_integer.optional).mono ?_
    rintro v (rfl | ⟨i, hlow, hhigh, rfl⟩)
    · exact ⟨{}, .tail _ (.tail _ (.head _))⟩
    · rw [← nat_ofNat64 hlow hhigh]
      exact ⟨{ maxConcurrent := some (.ofNat i.toNat) }, .tail _ (.tail _ (.head _))⟩
  · refine Json.verbatim_text.mono ?_
    rintro v ⟨t, rfl⟩
    exact ⟨{ userAgent := t }, .tail _ (.tail _ (.tail _ (.head _)))⟩
  · refine Json.verbatim_integer.mono ?_
    rintro v ⟨i, hlow, hhigh, rfl⟩
    rw [← nat_ofNat16 hlow hhigh]
    exact ⟨{ successStatus := .ofNat i.toNat }, .tail _ (.tail _ (.tail _ (.tail _ (.head _))))⟩

/-- **The settings of an object** have its members at the keys that it has and the default values at
those that are missing. -/
theorem members_of_ofText (hparse : Json.parse bs = .ok (.obj ms)) (h : ofText bs = .ok s) :
    s.members = ({} : Settings).members.map fun m => (m.1, (ms.get? m.1).getD m.2) := by
  obtain ⟨rest, hv⟩ := Json.readWith_eq_ok hparse
  unfold ofText at h
  cases hread : Json.readWith shape.scan bs with
  | error e =>
    rw [hread] at h
    cases h
  | ok w =>
    rw [hread] at h
    cases h
    obtain ⟨rest', hw⟩ := Json.readWith_eq_ok hread
    obtain ⟨hwrites, rfl⟩ := obj_of_scan hv hw
    obtain ⟨s, hs⟩ := exists_members (fun m => (ms.get? m.1).getD m.2) fun m hm => by
      cases hget : ms.get? m.1 with
      | none => exact ⟨{}, hm⟩
      | some v => exact hwrites m hm v hget
    dsimp only
    rw [← hs, ofShaped_members]
    rfl

end Object

end Courier.Settings
