import Mathlib.Data.List.Basic
import SiteSnapshot.Crawl.Render

/-!
# The chain of redirects

From a page, redirects lead through a **chain** of paths: each is what the location of the one
before it resolves to (`Chain`). Rendering the page requests the chain from its start, up to the
sixth path, and the first path that does not lead on decides how the page ends: as a page of the
site, or with the failure of the first obstacle (`Stops`).

`requested_follow` and `result_follow` say so for any number of redirects that may still be
followed, and `render_follows_chain` for the five of a page.
-/

namespace SiteSnapshot

theorem Response.redirect?_eq_some_iff {r : Response} {location : String} :
    r.redirect? = some location ↔
      (r.status = 301 ∨ r.status = 302) ∧ r.location = some location ∧ location ≠ "" := by
  rw [redirect?]
  split_ifs with hstatus <;> simp [hstatus, Option.filter_eq_some_iff]

namespace Crawl

variable {router : Router} {start path next last location : String} {left k : ℕ}

/-- A path whose response is a permanent or temporary move to a location that is not empty. -/
def RedirectsTo (router : Router) (path location : String) : Prop :=
  ∃ r, router "GET" path = .ok r ∧ (r.status = 301 ∨ r.status = 302) ∧
    r.location = some location ∧ location ≠ ""

/-- The paths that redirects lead to from a path, by their numbers. -/
inductive Chain (router : Router) (start : String) : ℕ → String → Prop
  | zero : Chain router start 0 start
  | step {k : ℕ} {path location next : String} (chain : Chain router start k path)
      (redirects : RedirectsTo router path location)
      (resolves : resolveLocation path location = some next) : Chain router start (k + 1) next

/-- Why a path of a chain is not left for a page or another path, if `left` more redirects may be
followed from there: the obstacle that is met first. -/
inductive Stops (router : Router) (start : String) (left : ℕ) (path : String) : Failure → Prop
  | unanswered {f : Failure} (failed : router "GET" path = .error f) :
      Stops router start left path f
  | offSite {location : String} (redirects : RedirectsTo router path location) (more : 0 < left)
      (leaves : resolveLocation path location = none) :
      Stops router start left path (.offSite start location)
  | tooMany {location : String} (redirects : RedirectsTo router path location) (none : left = 0) :
      Stops router start left path (.tooManyRedirects start)
  | status {r : Response} (answered : router "GET" path = .ok r)
      (stays : ∀ location, ¬RedirectsTo router path location) (bad : r.status ≠ 200) :
      Stops router start left path (.unexpectedStatus path r.status)

/-- The page that a response at the end of a chain makes. -/
def pageOf (start path : String) (r : Response) : RenderedPage where
  path := start
  finalPath := path
  body := r.body
  contentType := r.contentType.getD ""
  status := r.status

/-! ### Chains by their first redirect -/

theorem redirectsTo_iff {r : Response} (h : router "GET" path = .ok r) :
    RedirectsTo router path location ↔ r.redirect? = some location := by
  rw [Response.redirect?_eq_some_iff, RedirectsTo]
  constructor
  · rintro ⟨r', hr', hredirects⟩
    rw [h] at hr'
    rwa [Except.ok.inj hr']
  · exact fun hredirects => ⟨r, h, hredirects⟩

theorem not_redirectsTo_of_error {f : Failure} (h : router "GET" path = .error f) :
    ¬RedirectsTo router path location := by
  rintro ⟨r, hr, -⟩
  rw [h] at hr
  cases hr

theorem chain_zero_iff : Chain router start 0 last ↔ last = start := by
  constructor
  · rintro ⟨⟩
    rfl
  · rintro rfl
    exact .zero

/-- A chain goes on from what the first redirect resolves to. -/
theorem chain_succ_iff : Chain router start (k + 1) last ↔
    ∃ location next, RedirectsTo router start location ∧
      resolveLocation start location = some next ∧ Chain router next k last := by
  constructor
  · intro h
    induction k generalizing last with
    | zero =>
      obtain ⟨⟩ | ⟨chain, redirects, resolves⟩ := h
      rw [chain_zero_iff] at chain
      subst chain
      exact ⟨_, _, redirects, resolves, .zero⟩
    | succ k ih =>
      obtain ⟨⟩ | ⟨chain, redirects, resolves⟩ := h
      obtain ⟨location, next, hfirst, hnext, hrest⟩ := ih chain
      exact ⟨location, next, hfirst, hnext, .step hrest redirects resolves⟩
  · rintro ⟨location, next, hfirst, hnext, hrest⟩
    induction hrest with
    | zero => exact .step .zero hfirst hnext
    | step _ redirects resolves ih => exact .step ih redirects resolves

/-- A path that does not lead on is the end of its chain. -/
theorem chain_iff_of_stays (h : ∀ location next, RedirectsTo router start location →
    resolveLocation start location ≠ some next) :
    Chain router start k last ↔ k = 0 ∧ last = start := by
  cases k with
  | zero => simp [chain_zero_iff]
  | succ k =>
    rw [chain_succ_iff]
    refine ⟨?_, fun hzero => absurd hzero.1 k.succ_ne_zero⟩
    rintro ⟨location, next, hredirects, hnext, -⟩
    exact absurd hnext (h location next hredirects)

/-- A path that leads on has its chain from the next path on. -/
theorem chain_succ_iff_of_redirectsTo (hredirects : RedirectsTo router start location)
    (hnext : resolveLocation start location = some next) :
    Chain router start (k + 1) last ↔ Chain router next k last := by
  rw [chain_succ_iff]
  constructor
  · rintro ⟨location', next', ⟨r', hr', -, hlocation', -⟩, hnext', hrest⟩
    obtain ⟨r, hr, -, hlocation, -⟩ := hredirects
    rw [hr] at hr'
    rw [← Except.ok.inj hr', hlocation] at hlocation'
    rw [← Option.some.inj hlocation', hnext] at hnext'
    rwa [Option.some.inj hnext']
  · exact fun hrest => ⟨location, next, hredirects, hnext, hrest⟩

/-! ### Following a chain -/

/-- How a path of a chain ends the visit, if it does. -/
inductive Concludes (router : Router) (start : String) (left : ℕ) (path : String) :
    Except Failure RenderedPage → Prop
  | page {r : Response} (answered : router "GET" path = .ok r) (good : r.status = 200) :
      Concludes router start left path (.ok (pageOf start path r))
  | stop {f : Failure} (stops : Stops router start left path f) :
      Concludes router start left path (.error f)

/-- A redirect that is followed. -/
theorem follow_of_redirectsTo (hredirects : RedirectsTo router path location)
    (hnext : resolveLocation path location = some next) :
    follow router start (left + 1) path =
      ⟨path :: (follow router start left next).requested,
        (follow router start left next).result⟩ := by
  obtain ⟨r, hr, hmoved⟩ := hredirects
  have hredirect : r.redirect? = some location := Response.redirect?_eq_some_iff.mpr hmoved
  rw [follow, hr]
  simp only [hredirect, hnext]

/-- A path that ends the visit is the last one requested. -/
theorem follow_of_concludes {result : Except Failure RenderedPage}
    (h : Concludes router start left path result) :
    follow router start left path = ⟨[path], result⟩ := by
  rw [follow.eq_def]
  cases h with
  | @page r hr hgood =>
    have hredirect : r.redirect? = none := by
      rw [Response.redirect?, if_neg (by omega)]
    simp only [hr, hredirect, hgood, if_true, pageOf]
  | stop hstops =>
    cases hstops with
    | unanswered hfailed => simp only [hfailed]
    | offSite hredirects hmore hleaves =>
      obtain ⟨r, hr, hmoved⟩ := hredirects
      obtain ⟨left, rfl⟩ := Nat.exists_eq_add_of_le' hmore
      simp only [hr, Response.redirect?_eq_some_iff.mpr hmoved, hleaves]
    | tooMany hredirects hnone =>
      obtain ⟨r, hr, hmoved⟩ := hredirects
      simp only [hr, Response.redirect?_eq_some_iff.mpr hmoved, hnone]
    | @status r hr hstays hbad =>
      have hredirect : r.redirect? = none := by
        rw [Option.eq_none_iff_forall_ne_some]
        exact fun location hlocation => hstays location ((redirectsTo_iff hr).mpr hlocation)
      simp only [hr, hredirect, if_neg hbad]

/-- A path ends the visit, or its redirect is followed. -/
theorem concludes_or_redirectsTo (router : Router) (start : String) (left : ℕ) (path : String) :
    (∃ result, Concludes router start left path result) ∨
      ∃ left' location next, left = left' + 1 ∧ RedirectsTo router path location ∧
        resolveLocation path location = some next := by
  cases hr : router "GET" path with
  | error f => exact Or.inl ⟨_, .stop (.unanswered hr)⟩
  | ok r =>
    by_cases hredirects : ∃ location, RedirectsTo router path location
    · obtain ⟨location, hredirects⟩ := hredirects
      cases left with
      | zero => exact Or.inl ⟨_, .stop (.tooMany hredirects rfl)⟩
      | succ left =>
        cases hnext : resolveLocation path location with
        | none => exact Or.inl ⟨_, .stop (.offSite hredirects left.succ_pos hnext)⟩
        | some next => exact Or.inr ⟨left, location, next, rfl, hredirects, hnext⟩
    · by_cases hgood : r.status = 200
      · exact Or.inl ⟨_, .page hr hgood⟩
      · exact Or.inl ⟨_, .stop (.status hr (not_exists.mp hredirects) hgood)⟩

/-- Where the visit ends, the chain is not followed any further. -/
theorem Concludes.chain_iff {result : Except Failure RenderedPage}
    (h : Concludes router start left path result) :
    k ≤ left ∧ Chain router path k last ↔ k = 0 ∧ last = path := by
  have hstays : (∀ location next, RedirectsTo router path location →
      resolveLocation path location ≠ some next) →
      (k ≤ left ∧ Chain router path k last ↔ k = 0 ∧ last = path) := by
    intro h
    rw [chain_iff_of_stays h]
    exact ⟨And.right, fun h => ⟨h.1 ▸ left.zero_le, h⟩⟩
  cases h with
  | page hr hgood =>
    refine hstays fun location _ hredirects => ?_
    obtain ⟨r', hr', hmoved, -⟩ := hredirects
    rw [hr] at hr'
    obtain rfl := Except.ok.inj hr'
    omega
  | stop hstops =>
    cases hstops with
    | unanswered hfailed =>
      exact hstays fun location _ hredirects => absurd hredirects (not_redirectsTo_of_error hfailed)
    | offSite hredirects _ hleaves =>
      refine hstays fun location' next hredirects' => ?_
      obtain ⟨r, hr, -, hlocation, -⟩ := hredirects
      obtain ⟨r', hr', -, hlocation', -⟩ := hredirects'
      rw [hr] at hr'
      rw [← Except.ok.inj hr', hlocation] at hlocation'
      rw [← Option.some.inj hlocation', hleaves]
      exact (Option.some_ne_none next).symm
    | tooMany _ hnone =>
      rw [hnone, Nat.le_zero]
      constructor
      · rintro ⟨rfl, hchain⟩
        exact ⟨rfl, chain_zero_iff.mp hchain⟩
      · rintro ⟨rfl, rfl⟩
        exact ⟨rfl, .zero⟩
    | status _ hstatus _ =>
      exact hstays fun location _ hredirects => absurd hredirects (hstatus location)

/-- **What is requested**: the chain, as far as redirects may be followed. -/
theorem requested_follow : (follow router start left path).requested[k]? = some last ↔
    k ≤ left ∧ Chain router path k last := by
  induction left generalizing path k with
  | zero =>
    rcases concludes_or_redirectsTo router start 0 path with ⟨result, hend⟩ | ⟨left, _, _, heq, -⟩
    · rw [hend.chain_iff, follow_of_concludes hend]
      cases k <;> simp [eq_comm]
    · cases heq
  | succ left ih =>
    rcases concludes_or_redirectsTo router start (left + 1) path with
      ⟨result, hend⟩ | ⟨left', location, next, heq, hredirects, hnext⟩
    · rw [hend.chain_iff, follow_of_concludes hend]
      cases k <;> simp [eq_comm]
    · rw [follow_of_redirectsTo hredirects hnext]
      cases k with
      | zero => simp [chain_zero_iff, eq_comm]
      | succ k =>
        rw [List.getElem?_cons_succ, ih, chain_succ_iff_of_redirectsTo hredirects hnext,
          Nat.succ_le_succ_iff]

/-- **How a visit ends**: as the path of the chain says that ends it. -/
theorem result_follow {result : Except Failure RenderedPage} :
    (follow router start left path).result = result ↔
      ∃ k ≤ left, ∃ last, Chain router path k last ∧
        Concludes router start (left - k) last result := by
  constructor
  · rintro rfl
    induction left generalizing path with
    | zero =>
      rcases concludes_or_redirectsTo router start 0 path with
        ⟨result, hend⟩ | ⟨left, _, _, heq, -⟩
      · exact ⟨0, Nat.le_refl 0, path, .zero, follow_of_concludes hend ▸ hend⟩
      · cases heq
    | succ left ih =>
      rcases concludes_or_redirectsTo router start (left + 1) path with
        ⟨result, hend⟩ | ⟨left', location, next, heq, hredirects, hnext⟩
      · exact ⟨0, Nat.zero_le _, path, .zero, follow_of_concludes hend ▸ hend⟩
      · obtain ⟨k, hk, last, hchain, hend⟩ := @ih next
        refine ⟨k + 1, Nat.succ_le_succ hk, last,
          (chain_succ_iff_of_redirectsTo hredirects hnext).mpr hchain, ?_⟩
        rwa [follow_of_redirectsTo hredirects hnext, Nat.succ_sub_succ]
  · rintro ⟨k, hk, last, hchain, hend⟩
    induction k generalizing left path with
    | zero =>
      rw [chain_zero_iff] at hchain
      rw [hchain, Nat.sub_zero] at hend
      rw [follow_of_concludes hend]
    | succ k ih =>
      obtain ⟨location, next, hredirects, hnext, hchain⟩ := chain_succ_iff.mp hchain
      obtain ⟨left, rfl⟩ := Nat.exists_eq_add_of_le' (Nat.le_of_add_left_le hk)
      rw [Nat.succ_sub_succ] at hend
      rw [follow_of_redirectsTo hredirects hnext]
      exact ih (Nat.le_of_succ_le_succ hk) hchain hend

/-- **Rendering a page follows its chain of redirects**, and no further than five of them. What is
requested is the chain from its start to the sixth path at most. There is a page exactly if a path
of these is answered with status 200, and it is filed under the path that was asked for. Otherwise
the failure is that of the obstacle that is met first: a redirect beyond the fifth is one wherever
it points. -/
theorem render_follows_chain (router : Router) (start : String) :
    (visit router start).requested.length ≤ 6 ∧
      (∀ k path, (visit router start).requested[k]? = some path ↔
        k ≤ 5 ∧ Chain router start k path) ∧
      (∀ page, render router start = .ok page ↔
        ∃ k ≤ 5, ∃ path r, Chain router start k path ∧ router "GET" path = .ok r ∧
          r.status = 200 ∧ page = pageOf start path r) ∧
      ∀ f, render router start = .error f ↔
        ∃ k ≤ 5, ∃ path, Chain router start k path ∧ Stops router start (5 - k) path f := by
  have hrequested : ∀ k path, (visit router start).requested[k]? = some path ↔
      k ≤ 5 ∧ Chain router start k path := fun k path => requested_follow
  refine ⟨?_, hrequested, fun page => ?_, fun f => ?_⟩
  · by_contra hlong
    obtain ⟨h, -⟩ := (hrequested 6 _).mp (List.getElem?_eq_getElem (Nat.lt_of_not_le hlong))
    omega
  · rw [render, visit, result_follow]
    constructor
    · rintro ⟨k, hk, path, hchain, ⟨hr, hgood⟩ | -⟩
      exact ⟨k, hk, path, _, hchain, hr, hgood, rfl⟩
    · rintro ⟨k, hk, path, r, hchain, hr, hgood, rfl⟩
      exact ⟨k, hk, path, hchain, .page hr hgood⟩
  · rw [render, visit, result_follow]
    constructor
    · rintro ⟨k, hk, path, hchain, - | hstops⟩
      exact ⟨k, hk, path, hchain, hstops⟩
    · rintro ⟨k, hk, path, hchain, hstops⟩
      exact ⟨k, hk, path, hchain, .stop hstops⟩

end Crawl

end SiteSnapshot
