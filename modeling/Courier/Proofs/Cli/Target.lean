import Courier.Proofs.Cli.Planning
import Courier.Proofs.Url.Base

/-!
Where the request of a command line goes.  A target that begins as whole URLs are written goes to its
own host, whatever the base; every other target goes to the host of the base, and so do the URLs among
them that are written in another way, with capitals in the scheme, with blanks before it, or with
fewer slashes behind it.
-/

namespace Courier.Cli

variable {a : Arguments} {s : Settings} {e : Endpoint} {t : Url}

/-- The standard text of a URL of the web begins as a whole URL. -/
lemma isWhole_text (h : t.scheme.isWeb = true) : isWhole t.text = true := by
  unfold isWhole Url.text
  rw [String.toList_ofList]
  cases hs : t.scheme with
  | http => simp [Url.Scheme.name]
  | https => simp [Url.Scheme.name]
  | _ => rw [hs] at h; cases h

lemma url_aim_of_whole {m : Http.Method} {base : Option String} {target : String}
    (h : base = none ∨ isWhole target = true) : (aim m base target).url = target := by
  unfold aim
  rcases h with rfl | hwhole
  · rfl
  · cases base with
    | none => rfl
    | some base =>
      dsimp only
      rw [if_pos hwhole]

lemma url_aim_of_not_whole {m : Http.Method} {base target : String}
    (h : isWhole target = false) : (aim m (some base) target).url = Endpoint.join base target := by
  unfold aim
  rw [h]
  rfl

/-- **Where a request goes** whose target is a URL of the web.  If it begins as a whole URL, or if
there is no base, the endpoint resolves as it would from the target alone, to the scheme and the
authority of the target; else to those of the base.  The standard text of the URL begins as a whole
one, so that a target in this form is never taken for a path. -/
theorem target_host (he : a.endpoint s = .ok e) (ht : Url.read a.target = .ok (.url t))
    (hweb : t.scheme.isWeb = true) :
    (s.baseUrl = none ∨ isWhole a.target = true → ∃ r, e.resolve = .ok r ∧
      Endpoint.resolve { method := e.method, url := a.target, query := e.query } = .ok r ∧
      r.scheme = t.scheme ∧ r.authority = t.authority) ∧
    (∀ base u, s.baseUrl = some base → isWhole a.target = false →
      Url.read base = .ok (.url u) →
      ∀ r, e.resolve = .ok r → r.scheme = u.scheme ∧ r.authority = u.authority) ∧
    isWhole t.text = true := by
  obtain ⟨-, -, hurl⟩ := endpoint_eq_ok_iff.mp he
  refine ⟨fun hwhole => ?_, fun base u hbase hnot hread r hr => ?_, isWhole_text hweb⟩
  · rw [url_aim_of_whole hwhole] at hurl
    have hsame := t.sameButQuery_addPairs e.query
    have htarget := Endpoint.resolve_of_read
      (e := { method := e.method, url := a.target, query := e.query }) ht hweb
    exact ⟨_, Endpoint.resolve_of_read (hurl ▸ ht) hweb, htarget, hsame.scheme, hsame.authority⟩
  · rw [hbase, url_aim_of_not_whole hnot] at hurl
    exact Endpoint.resolve_join a.target hread hurl hr

/-- The arguments `GET` and a target, with a base. -/
def getUnder (base target : String) : Arguments where
  method := "GET"
  target := target
  options := { baseUrl := some base }

theorem target_host_of_whole : ∃ e r,
    (getUnder "http://api.test" "http://other.test/items").endpoint
      { baseUrl := some "http://api.test" } = .ok e ∧
    e.resolve = .ok r ∧ r.authority = ⟨"", "", .domain "other.test", none⟩ := by
  have he : (getUnder "http://api.test" "http://other.test/items").endpoint
      { baseUrl := some "http://api.test" } =
        .ok { method := .get, url := "http://other.test/items" } := rfl
  have ht : Url.read "http://other.test/items" =
      .ok (.url ⟨.http, ⟨"", "", .domain "other.test", none⟩, ["items"], none, none⟩) := rfl
  obtain ⟨r, hr, -, -, hauthority⟩ := (target_host he ht rfl).1 (.inr rfl)
  exact ⟨_, r, he, hr, hauthority⟩

/-- A URL with capitals in its scheme is taken for a path under the base. -/
theorem target_host_lost : ¬∀ (a : Arguments) (s : Settings) (e : Endpoint) (t : Url),
    a.endpoint s = .ok e → Url.read a.target = .ok (.url t) → t.scheme.isWeb = true →
      e.resolve = Endpoint.resolve { method := e.method, url := a.target, query := e.query } := by
  intro h
  have hsame := h (getUnder "http://api.test" "HTTP://other.test/items")
    { baseUrl := some "http://api.test" }
    { method := .get, url := "http://api.test/HTTP://other.test/items" }
    ⟨.http, ⟨"", "", .domain "other.test", none⟩, ["items"], none, none⟩ rfl rfl rfl
  have hbase : Endpoint.resolve
      { method := .get, url := "http://api.test/HTTP://other.test/items" } =
        .ok ⟨.http, ⟨"", "", .domain "api.test", none⟩, ["HTTP:", "", "other.test", "items"], none,
          none⟩ := rfl
  have htarget : Endpoint.resolve { method := .get, url := "HTTP://other.test/items" } =
      .ok ⟨.http, ⟨"", "", .domain "other.test", none⟩, ["items"], none, none⟩ := rfl
  have hboth := Except.ok.inj ((hbase.symm.trans hsame).trans htarget)
  exact absurd (congrArg Url.path hboth) (by decide)

end Courier.Cli
