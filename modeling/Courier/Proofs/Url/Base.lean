import Courier.Proofs.Url.Authority
import Courier.Proofs.Url.Query
import Mathlib.Data.List.TakeWhile

/-!
Paths under a base.  A base and a path are put together as text, and the whole is read as a URL; the
authority in it ends where it ended in the base, before the first slash of either kind, so that
nothing in the path can move it.  Only blanks at the end of a base come to stand elsewhere, and where
they would belong to the authority there is no URL.
-/

namespace Courier

namespace Url

variable {cs rest slashes blanks : List Char} {u : Url}

/-! ### Texts without what is dropped -/

/-- What is trimmed from the end of a text. -/
lemma exists_trimmed (p : Char → Bool) (cs : List Char) :
    ∃ tail, (∀ c ∈ tail, p c = true) ∧ cs = (cs.reverse.dropWhile p).reverse ++ tail := by
  refine ⟨(cs.reverse.takeWhile p).reverse, fun c hc => ?_, ?_⟩
  · exact List.mem_takeWhile_imp (List.mem_reverse.mp hc)
  · rw [← List.reverse_append, List.takeWhile_append_dropWhile, List.reverse_reverse]

/-- What is left of a text that another follows. -/
def cleanFront (cs : List Char) : List Char := (cs.dropWhile isOuter).filter (!isIgnored ·)

/-- What is left of a text that follows another. -/
def cleanBack (cs : List Char) : List Char :=
  ((cs.reverse.dropWhile isOuter).reverse).filter (!isIgnored ·)

lemma cleanBack_subset (cs : List Char) : cleanBack cs ⊆ cs := by
  intro c hc
  obtain ⟨tail, -, hcs⟩ := exists_trimmed isOuter cs
  rw [hcs]
  exact List.mem_append_left _ (List.mem_filter.mp hc).1

/-- Where a text is divided by a slash, the two sides are cleaned apart. -/
lemma clean_divided (as bs : List Char) :
    clean (as ++ '/' :: bs) = cleanFront as ++ '/' :: cleanBack bs := by
  have hdrop : ∀ xs ys, (xs ++ '/' :: ys).dropWhile isOuter = xs.dropWhile isOuter ++ '/' :: ys := by
    intro xs ys
    rw [List.dropWhile_append, List.dropWhile_cons_of_neg (by decide)]
    split
    next hnil => rw [List.isEmpty_iff.mp hnil, List.nil_append]
    next => rfl
  have hback : ∀ xs, ((xs ++ '/' :: bs).reverse.dropWhile isOuter).reverse =
      xs ++ '/' :: (bs.reverse.dropWhile isOuter).reverse := by
    intro xs
    rw [List.reverse_append, List.reverse_cons, List.append_assoc, List.singleton_append, hdrop]
    simp
  unfold clean
  dsimp only
  rw [hdrop, hback, List.filter_append, List.filter_cons_of_pos rfl]
  rfl

/-- Blanks at the end of a text are there as soon as another follows. -/
lemma cleanFront_eq (cs : List Char) : ∃ blanks, cleanFront cs = clean cs ++ blanks ∧
    (∀ c ∈ blanks, isOuter c = true) ∧
    ((∀ c ∈ cs.getLast?, isOuter c = false) → blanks = []) := by
  obtain ⟨tail, htail, hcs⟩ := exists_trimmed isOuter (cs.dropWhile isOuter)
  refine ⟨tail.filter (!isIgnored ·), ?_, fun c hc => htail c (List.mem_filter.mp hc).1,
    fun hlast => ?_⟩
  · unfold cleanFront clean
    dsimp only
    rw [← List.filter_append, ← hcs]
  · rcases tail.eq_nil_or_concat with rfl | ⟨init, last, rfl⟩
    · rfl
    · have hend : cs.getLast? = some last := by
        rw [← List.takeWhile_append_dropWhile (p := isOuter) (l := cs), hcs]
        simp
      have hout := htail last (by simp)
      rw [hlast last hend] at hout
      cases hout

/-- What is left of a base and of its join with a path: the same text, behind it slashes in the base,
and in the join blanks that are no longer at the end, a slash, and the path. -/
lemma clean_join (base path : String) : ∃ text slashes blanks rest,
    clean base.toList = text ++ slashes ∧
    clean (Endpoint.join base path).toList = text ++ (blanks ++ '/' :: rest) ∧
    (∀ c ∈ slashes, c = '/') ∧ (∀ c ∈ blanks, isOuter c = true) ∧
    ((∀ c ∈ base.toList.getLast?, isOuter c = false) → blanks = []) := by
  have hjoin : (Endpoint.join base path).toList =
      Endpoint.trimEnd base ++ '/' :: Endpoint.trimFront path := by
    unfold Endpoint.join
    exact String.toList_ofList
  obtain ⟨slashes, hslashes, hbase⟩ :
      ∃ slashes, (∀ c ∈ slashes, (c == '/') = true) ∧ base.toList = Endpoint.trimEnd base ++ slashes :=
    exists_trimmed (· == '/') base.toList
  simp only [beq_iff_eq] at hslashes
  rw [hjoin, clean_divided]
  cases slashes with
  | nil =>
    rw [List.append_nil] at hbase
    obtain ⟨blanks, hfront, hblanks, hlast⟩ := cleanFront_eq base.toList
    refine ⟨clean base.toList, [], blanks, cleanBack (Endpoint.trimFront path),
      (List.append_nil _).symm, ?_, nofun, hblanks, hlast⟩
    rw [← hbase, hfront, List.append_assoc]
  | cons c more =>
    obtain rfl : c = '/' := hslashes c List.mem_cons_self
    refine ⟨cleanFront (Endpoint.trimEnd base), '/' :: cleanBack more, [], _, ?_, rfl,
      fun c hc => ?_, nofun, fun _ => rfl⟩
    · rw [← clean_divided, ← hbase]
    · rcases List.mem_cons.mp hc with rfl | hc
      · rfl
      · exact hslashes c (List.mem_cons_of_mem _ (cleanBack_subset more hc))

/-! ### Scheme and authority -/

/-- The name of the scheme does not depend on what follows the colon. -/
lemma splitScheme?_append {name : String} (h : splitScheme? cs = some (name, rest)) :
    ∃ front, cs = front ++ ':' :: rest ∧
      ∀ more, splitScheme? (front ++ ':' :: more) = some (name, more) := by
  have hall : ∀ c ∈ cs.takeWhile inScheme, inScheme c = true := fun c => List.mem_takeWhile_imp
  have hwhole := List.takeWhile_append_dropWhile (p := inScheme) (l := cs)
  unfold splitScheme? at h
  dsimp only at h
  split at h
  next c name' rest' htake hdrop =>
    rw [hdrop] at hwhole
    split at h
    next halpha =>
      obtain ⟨rfl, rfl⟩ := Prod.mk.inj (Option.some.inj h)
      refine ⟨cs.takeWhile inScheme, hwhole.symm, fun more => ?_⟩
      unfold splitScheme?
      rw [List.takeWhile_append_of_pos hall, List.dropWhile_append_of_pos hall,
        List.takeWhile_cons_of_neg (by decide), List.dropWhile_cons_of_neg (by decide),
        List.append_nil, htake]
      exact if_pos halpha
    next => cases h
  next => cases h

/-- The text of the authority in what follows the colon of the scheme. -/
def authorityText (cs : List Char) : List Char :=
  (cs.dropWhile isSlash).takeWhile (!endsAuthority ·)

lemma readAuthority_nil (scheme : Scheme) : readAuthority scheme [] = .error .emptyHost := rfl

lemma readAfterScheme_authority {scheme : Scheme} (h : readAfterScheme scheme cs = .ok u) :
    u.scheme = scheme ∧ readAuthority scheme (authorityText cs) = .ok u.authority := by
  unfold readAfterScheme at h
  obtain ⟨a, ha, h⟩ := bind_eq_ok_iff.mp h
  obtain rfl := Except.ok.inj h
  exact ⟨rfl, ha⟩

lemma exists_readAfterScheme {scheme : Scheme} {a : Authority}
    (h : readAuthority scheme (authorityText cs) = .ok a) :
    ∃ v, readAfterScheme scheme cs = .ok v := by
  unfold readAfterScheme
  exact ⟨_, bind_eq_ok_iff.mpr ⟨a, h, rfl⟩⟩

lemma read_eq_url {s : String} (h : read s = .ok (.url u)) : ∃ name rest,
    splitScheme? (clean s.toList) = some (name, rest) ∧ Scheme.ofName? name = some u.scheme ∧
      readAuthority u.scheme (authorityText rest) = .ok u.authority := by
  unfold read at h
  split at h
  next => cases h
  next name rest hsplit =>
    split at h
    next scheme hscheme =>
      cases hread : readAfterScheme scheme rest with
      | error r =>
        rw [hread] at h
        cases h
      | ok v =>
        rw [hread] at h
        obtain rfl := Reading.url.inj (Except.ok.inj h)
        obtain ⟨rfl, hauthority⟩ := readAfterScheme_authority hread
        exact ⟨name, rest, hsplit, hscheme, hauthority⟩
    next =>
      cases hread : Other.readAfterScheme name rest with
      | error r =>
        rw [hread] at h
        cases h
      | ok v =>
        rw [hread] at h
        cases h

lemma read_of_scheme {s name : String} {scheme : Scheme}
    (hsplit : splitScheme? (clean s.toList) = some (name, rest))
    (hscheme : Scheme.ofName? name = some scheme) :
    read s = (readAfterScheme scheme rest).map .url := by
  unfold read
  rw [hsplit]
  dsimp only
  rw [hscheme]

/-! ### The authority of a join -/

lemma not_endsAuthority {c : Char} (h : isOuter c = true) : (!endsAuthority c) = true := by
  have hne : ∀ d, isOuter d = false → (c == d) = false := fun d hd =>
    beq_eq_false_iff_ne.mpr (ne_of_isOuter h hd)
  unfold endsAuthority isSlash
  rw [hne '/' rfl, hne '\\' rfl, hne '?' rfl, hne '#' rfl]
  rfl

/-- An authority that is there ends before slashes behind the text, so that it is the same if blanks
and a slash follow instead; or it goes on to the end of the text, and takes the blanks with it. -/
lemma authorityText_divided (hne : authorityText (cs ++ slashes) ≠ [])
    (hslashes : ∀ c ∈ slashes, c = '/') (hblanks : ∀ c ∈ blanks, isOuter c = true)
    (rest : List Char) :
    authorityText (cs ++ (blanks ++ '/' :: rest)) = authorityText (cs ++ slashes) ∨
      authorityText (cs ++ (blanks ++ '/' :: rest)) = authorityText (cs ++ slashes) ++ blanks := by
  have hdropped : cs.dropWhile isSlash ≠ [] := by
    intro hnil
    refine hne ?_
    have hall : (cs ++ slashes).dropWhile isSlash = [] := by
      refine List.dropWhile_eq_nil_iff.mpr fun c hc => ?_
      rcases List.mem_append.mp hc with hc | hc
      · exact List.dropWhile_eq_nil_iff.mp hnil c hc
      · rw [hslashes c hc]
        rfl
    unfold authorityText
    rw [hall]
    rfl
  have hdrop : ∀ more, (cs ++ more).dropWhile isSlash = cs.dropWhile isSlash ++ more := by
    intro more
    rw [List.dropWhile_append, if_neg (by simpa using hdropped)]
  unfold authorityText
  rw [hdrop, hdrop]
  generalize cs.dropWhile isSlash = text
  by_cases hall : ∀ c ∈ text, (!endsAuthority c) = true
  · -- the authority is all that is left of the text
    right
    have hback : slashes.takeWhile (!endsAuthority ·) = [] := by
      cases slashes with
      | nil => rfl
      | cons c slashes =>
        rw [hslashes c List.mem_cons_self]
        rfl
    have hfront : (blanks ++ '/' :: rest).takeWhile (!endsAuthority ·) = blanks := by
      rw [List.takeWhile_append_of_pos fun c hc => not_endsAuthority (hblanks c hc),
        List.takeWhile_cons_of_neg (by decide), List.append_nil]
    rw [List.takeWhile_append_of_pos hall, List.takeWhile_append_of_pos hall, hback, hfront,
      List.append_nil]
  · left
    have hshort : ¬(text.takeWhile (!endsAuthority ·)).length = text.length := by
      intro hlen
      have hwhole := (List.takeWhile_prefix (!endsAuthority ·)).eq_of_length hlen
      refine hall fun c hc => ?_
      rw [← hwhole] at hc
      exact List.mem_takeWhile_imp (p := (!endsAuthority ·)) hc
    rw [List.takeWhile_append, if_neg hshort, List.takeWhile_append, if_neg hshort]

/-- **A base is kept** by what is joined to it: if the join can be read, it is a URL with the scheme
and the authority of the base, and it can be read unless blanks of the base have come to stand in
the middle of it. -/
theorem read_join {base : String} (h : read base = .ok (.url u)) (path : String) :
    (∀ reading, read (Endpoint.join base path) = .ok reading →
      ∃ v, reading = .url v ∧ v.scheme = u.scheme ∧ v.authority = u.authority) ∧
    ((∀ c ∈ base.toList.getLast?, isOuter c = false) →
      ∃ v, read (Endpoint.join base path) = .ok (.url v)) := by
  obtain ⟨name, rest, hsplit, hscheme, hauthority⟩ := read_eq_url h
  obtain ⟨text, slashes, blanks, more, hbase, hjoin, hslashes, hblanks, hlast⟩ :=
    clean_join base path
  obtain ⟨front, hfront, hsplits⟩ := splitScheme?_append hsplit
  -- the colon stands before the slashes at the end
  obtain ⟨rest, rfl, rfl⟩ : ∃ rest', text = front ++ ':' :: rest' ∧ rest = rest' ++ slashes := by
    have hcolon : ':' ∉ slashes := fun hm => absurd (hslashes _ hm) (by decide)
    rcases List.append_eq_append_iff.mp (hbase.symm.trans hfront) with ⟨as, -, hs⟩ | ⟨as, ht, hs⟩
    · rw [hs] at hcolon
      exact absurd (List.mem_append_right _ List.mem_cons_self) hcolon
    · cases as with
      | nil =>
        rw [List.nil_append] at hs
        exact absurd (hs ▸ List.mem_cons_self) hcolon
      | cons c as =>
        obtain ⟨rfl, hrest⟩ := List.cons.inj hs
        exact ⟨as, ht, hrest⟩
  rw [List.append_assoc, List.cons_append] at hjoin
  have hread := read_of_scheme (hjoin ▸ hsplits _) hscheme
  have hne : authorityText (rest ++ slashes) ≠ [] := by
    intro hnil
    rw [hnil, readAuthority_nil] at hauthority
    cases hauthority
  have htexts := authorityText_divided hne hslashes hblanks more
  have hsame : ∀ a, readAuthority u.scheme (authorityText (rest ++ (blanks ++ '/' :: more))) = .ok a →
      a = u.authority := by
    intro a ha
    rcases htexts with htext | htext
    · rw [htext, hauthority] at ha
      exact (Except.ok.inj ha).symm
    · rcases blanks.eq_nil_or_concat with rfl | ⟨init, last, rfl⟩
      · rw [htext, List.append_nil, hauthority] at ha
        exact (Except.ok.inj ha).symm
      · rw [htext, List.concat_eq_append, ← List.append_assoc] at ha
        exact absurd ha (readAuthority_of_isOuter (hblanks last (by simp)) _ _ a)
  rw [hread]
  refine ⟨fun reading hreading => ?_, fun hend => ?_⟩
  · cases hv : readAfterScheme u.scheme (rest ++ (blanks ++ '/' :: more)) with
    | error r =>
      rw [hv] at hreading
      cases hreading
    | ok v =>
      rw [hv] at hreading
      obtain rfl := Except.ok.inj hreading
      obtain ⟨hs, ha⟩ := readAfterScheme_authority hv
      exact ⟨v, rfl, hs, hsame _ ha⟩
  · rw [hlast hend, List.append_nil, or_self, List.nil_append] at htexts
    rw [hlast hend, List.nil_append]
    obtain ⟨v, hv⟩ := exists_readAfterScheme (htexts ▸ hauthority)
    exact ⟨v, by rw [hv]; rfl⟩

end Url

namespace Endpoint

variable {e : Endpoint} {r u : Url}

lemma read_of_resolve (h : e.resolve = .ok r) :
    ∃ v, Url.read e.url = .ok (.url v) ∧ v.scheme.isWeb = true ∧ r = v.addPairs e.query := by
  unfold resolve at h
  split at h
  next => cases h
  next => cases h
  next v hv =>
    split at h
    next hweb => exact ⟨v, hv, hweb, (Except.ok.inj h).symm⟩
    next => cases h

/-- An endpoint whose URL is a path under a base goes to where the base goes. -/
lemma resolve_join {base : String} (path : String) (hread : Url.read base = .ok (.url u))
    (he : e.url = join base path) (hr : e.resolve = .ok r) :
    r.scheme = u.scheme ∧ r.authority = u.authority := by
  obtain ⟨v, hv, -, rfl⟩ := read_of_resolve hr
  rw [he] at hv
  obtain ⟨w, hw, hscheme, hauthority⟩ := (Url.read_join hread path).1 _ hv
  obtain rfl := Url.Reading.url.inj hw
  have hsame := v.sameButQuery_addPairs e.query
  exact ⟨hsame.scheme.trans hscheme, hsame.authority.trans hauthority⟩

/-- **A path cannot leave its base.**  Whatever the path and the query hold, an endpoint under a web
URL resolves to a URL with the scheme, the user, the host and the port of the base; and it does
resolve, but for a base with a blank or a control character at its end, which the URL standard takes
off the base alone and not out of the middle of the join. -/
theorem base_kept (method : Http.Method) (base path : String) (query : List (String × String))
    (hread : Url.read base = .ok (.url u)) (hweb : u.scheme.isWeb = true) :
    (∀ r, resolve { under method base path with query } = .ok r →
      r.scheme = u.scheme ∧ r.authority = u.authority) ∧
    ((∀ c ∈ base.toList.getLast?, Url.isOuter c = false) →
      ∃ r, resolve { under method base path with query } = .ok r) := by
  refine ⟨fun r hr => resolve_join path hread rfl hr, fun hend => ?_⟩
  obtain ⟨v, hv⟩ := (Url.read_join hread path).2 hend
  obtain ⟨w, hw, hscheme, -⟩ := (Url.read_join hread path).1 _ hv
  obtain rfl := Url.Reading.url.inj hw
  exact ⟨_, resolve_of_read (e := { under method base path with query }) hv (hscheme ▸ hweb)⟩

/-- A path that looks like another host, under a base that ends within its query. -/
theorem base_kept_of_intruder : ∃ r,
    resolve { under .get "http://u@a:8080/v1?/" "\\\\@evil:1/../..//x?#y" with
        query := [("k", "@b")] } = .ok r ∧
      r.scheme = .http ∧ r.authority = ⟨"u", "", .domain "a", some 8080⟩ := by
  have hread : Url.read "http://u@a:8080/v1?/" = .ok (.url
      ⟨.http, ⟨"u", "", .domain "a", some 8080⟩, ["v1"], some "/", none⟩) := rfl
  obtain ⟨hsame, hresolves⟩ := base_kept .get "http://u@a:8080/v1?/" "\\\\@evil:1/../..//x?#y"
    [("k", "@b")] hread rfl
  obtain ⟨r, hr⟩ := hresolves fun c hc => by
    obtain rfl : '/' = c := Option.some.inj hc
    rfl
  exact ⟨r, hr, hsame r hr⟩

end Endpoint

end Courier
