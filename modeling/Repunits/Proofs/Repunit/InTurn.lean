/-
  Repunits.Proofs.Repunit.InTurn
  ────────────────────────────────
  **Searches in turn are ordered and fail fast.**

  A search changes the finder's table only, and no search can tell what
  the table held before. So searches in turn come to what each divisor
  comes to alone, up to the first that fails; they leave the finder as
  the searches up to that one do, and no divisor after it has a trace.
  Searches side by side do not stop, but the first failure among their
  results, or else all their lengths, are the same.

  Main results:
    * `findAll_append` — searches that succeed, and those after them.
    * `findAll_of_failed` — the first search that fails.
    * `findAll_fst` — what searches in turn come to.
    * `findAll_failsFast` — these together, and searches side by side.
-/
import Repunits.Proofs.Repunit.Footprint
import Repunits.Proofs.Steps

namespace Repunits.Finder

/-! ## §1. Searches one by one. -/

/-- The finder after one search for each divisor in order, whatever comes of them. -/
def afterEach (f : Finder) (ds : List UInt64) : Finder := ds.foldl (fun g d => (g.find d).2) f

theorem afterEach_cons (f : Finder) (d : UInt64) (ds : List UInt64) :
    f.afterEach (d :: ds) = (f.find d).2.afterEach ds := rfl

theorem afterEach_append (f : Finder) (ds es : List UInt64) :
    f.afterEach (ds ++ es) = (f.afterEach ds).afterEach es := List.foldl_append

variable {f g : Finder}

/-- One search after the other extends the table as far as the deepest of them. -/
theorem afterEach_eq (hf : f.table.Exact) (ds : List UInt64) :
    f.afterEach ds = f.reached (largest (searchDepth f.limit) ds) := by
  induction ds generalizing f with
  | nil => exact (reached_zero f).symm
  | cons d ds ih =>
    rw [afterEach_cons, find_snd_eq hf, ih (exact_reached hf _), reached_limit,
      reached_reached hf, largest_cons]

/-- A search leaves a finder like all that it was like. -/
theorem Alike.find_left (h : Alike f g) (d : UInt64) : Alike (f.find d).2 g := by
  have hreached := h.reached (f.report d).1.tested 0
  rwa [reached_zero, ← find_snd h.left] at hreached

theorem Alike.afterEach_left (h : Alike f g) (ds : List UInt64) : Alike (f.afterEach ds) g := by
  induction ds generalizing f with
  | nil => exact h
  | cons d ds ih => exact ih (h.find_left d)

/-! ## §2. Up to the first that fails. -/

/-- **Searches that succeed** give their lengths in order, and the searches after them go on from
the finder that they leave. Whether one succeeds is told by any finder that is alike. -/
theorem findAll_append (h : Alike f g) {front : List UInt64} {ks : List Nat}
    (hfront : List.Forall₂ (fun d k => (g.find d).1 = .ok k) front ks) (back : List UInt64) :
    f.findAll (front ++ back) =
      (((f.afterEach front).findAll back).1.map (ks ++ ·),
        ((f.afterEach front).findAll back).2) := by
  induction hfront generalizing f with
  | nil =>
    show f.findAll back = ((f.findAll back).1.map id, (f.findAll back).2)
    rcases f.findAll back with ⟨e | ks, f'⟩ <;> rfl
  | @cons d k front ks hd _ ih =>
    have hk : (f.find d).1 = .ok k := (h.find d).1.trans hd
    have hrest := ih (h.find_left d)
    rw [← afterEach_cons] at hrest
    rw [List.cons_append, findAll]
    rcases hf : f.find d with ⟨e | k', f'⟩ <;> rw [hf] at hk hrest <;> cases hk
    dsimp only at hrest ⊢
    rw [hrest]
    rcases (f.afterEach (d :: front)).findAll back with ⟨e | ks', f''⟩ <;> rfl

theorem findAll_of_found (h : Alike f g) {ds : List UInt64} {ks : List Nat}
    (hds : List.Forall₂ (fun d k => (g.find d).1 = .ok k) ds ks) :
    f.findAll ds = (.ok ks, f.afterEach ds) := by
  have hall := findAll_append h hds []
  rw [List.append_nil] at hall
  rw [hall]
  show (Except.ok (ks ++ []), _) = _
  rw [List.append_nil]
  rfl

/-- **The first search that fails** is the last one made. -/
theorem findAll_of_failed (h : Alike f g) {front : List UInt64} {d : UInt64} {e : Fault}
    (hfront : ∀ x ∈ front, ∃ k, (g.find x).1 = .ok k) (hd : (g.find d).1 = .error e)
    (back : List UInt64) :
    f.findAll (front ++ d :: back) = (.error e, f.afterEach (front ++ [d])) := by
  obtain ⟨ks, hks⟩ := exists_forall₂ hfront
  have hfails : ((f.afterEach front).find d).1 = .error e :=
    ((h.afterEach_left front).find d).1.trans hd
  rw [findAll_append h hks, afterEach_append, findAll]
  show _ = (_, ((f.afterEach front).find d).2)
  rcases hf : (f.afterEach front).find d with ⟨e' | k, f'⟩ <;> rw [hf] at hfails <;> cases hfails
  rfl

/-- **What searches in turn come to** is what each divisor comes to alone, one after the other. -/
theorem findAll_fst (h : Alike f g) (ds : List UInt64) :
    (f.findAll ds).1 = ds.mapM fun d => (g.find d).1 := by
  induction ds generalizing f with
  | nil => rfl
  | cons d ds ih =>
    have hd := (h.find d).1
    have hrest := ih (h.find_left d)
    rw [List.mapM_cons, ← hd, ← hrest, findAll]
    rcases f.find d with ⟨e | k, f'⟩
    · rfl
    · dsimp only
      rcases f'.findAll ds with ⟨e | ks, f''⟩ <;> rfl

/-- Searches side by side, under any schedule, come to what each divisor comes to alone. -/
theorem Serves.results_eq (h : Alike f g) {ds : List UInt64} {results : List (Except Fault Nat)}
    {f' : Finder} (hserves : Serves f (.findEach ds) (.each results) f') :
    results = ds.map fun d => (g.find d).1 := by
  have hserve : Answer.each results = .each (f.findEach ds).1 :=
    congrArg Prod.fst (hserves.eq_serve h.left)
  rw [Answer.each.inj hserve, findEach_eq h.left]
  exact List.map_congr_left fun d _ => (h.find d).1

/-- **Searches in turn are ordered and fail fast.** What the search for a divisor comes to alone is
told by any finder `g` with the same limit, whatever its strategy and whatever it was used for.
Searches in turn give the lengths of all divisors in order just if each has one alone, and leave the
finder as one search after the other does. Otherwise they give the error of the first divisor that has
none, and leave the finder as the searches up to and including that one do; the divisors after it may
as well be others. Either way they give what comes of the results of searches side by side, under any
schedule, when these are taken together: all lengths, or the first error. -/
theorem findAll_failsFast {f g : Finder} (hf : f.Reachable) (hg : g.Reachable)
    (hlimit : g.limit = f.limit) :
    -- all searches succeed
    (∀ ds ks, (f.findAll ds).1 = .ok ks ↔
      List.Forall₂ (fun d k => (g.find d).1 = .ok k) ds ks) ∧
    (∀ ds ks, (f.findAll ds).1 = .ok ks → (f.findAll ds).2 = f.afterEach ds) ∧
    -- the search for `d` is the first that fails
    (∀ front d back e, (∀ x ∈ front, ∃ k, (g.find x).1 = .ok k) → (g.find d).1 = .error e →
      f.findAll (front ++ d :: back) = (.error e, f.afterEach (front ++ [d])) ∧
      ∀ back', f.findAll (front ++ d :: back') = f.findAll (front ++ d :: back)) ∧
    -- one or the other is the case
    (∀ ds, (∀ x ∈ ds, ∃ k, (g.find x).1 = .ok k) ∨ ∃ front d back e, ds = front ++ d :: back ∧
      (∀ x ∈ front, ∃ k, (g.find x).1 = .ok k) ∧ (g.find d).1 = .error e) ∧
    -- side by side
    ∀ ds, (f.findAll ds).1 = (f.findEach ds).1.mapM id ∧
      ∀ results f', Serves f (.findEach ds) (.each results) f' →
        (f.findAll ds).1 = results.mapM id := by
  have halike : Alike f g := ⟨hf.exact, hg.exact, hlimit.symm⟩
  have hfound : ∀ ds ks, (f.findAll ds).1 = .ok ks ↔
      List.Forall₂ (fun d k => (g.find d).1 = .ok k) ds ks := by
    intro ds ks
    rw [findAll_fst halike, mapM_eq_ok_iff]
  have heach : ∀ ds results f', Serves f (.findEach ds) (.each results) f' →
      (f.findAll ds).1 = results.mapM id := by
    intro ds results f' hserves
    rw [hserves.results_eq halike, findAll_fst halike, List.mapM_map]
    rfl
  refine ⟨hfound, ?_, ?_, ok_or_first_error fun d => (g.find d).1, ?_⟩
  · intro ds ks h
    rw [findAll_of_found halike ((hfound ds ks).mp h)]
  · intro front d back e hfront hd
    refine ⟨findAll_of_failed halike hfront hd back, ?_⟩
    intro back'
    rw [findAll_of_failed halike hfront hd, findAll_of_failed halike hfront hd]
  · intro ds
    exact ⟨heach ds _ _ (.handled (.findEach ds)), heach ds⟩

/-- A limit of five: three and eleven are found, and seven is the first of three that fails. The other
finder has the other strategy and was used for other divisors. -/
theorem findAll_failsFast_limitFive :
    let f := (({ strategy := .table } : Finder).serveAll [.repunit 2, .setLimit 5]).2
    let g := (({ strategy := .remainder } : Finder).serveAll [.find 13, .setLimit 5]).2
    f.Reachable ∧ g.Reachable ∧ g.limit = f.limit ∧ (f.findAll [3, 11]).1 = .ok [3, 2] ∧
      f.findAll [3, 7, 4] = (.error (.limitExceeded 7 5), f.afterEach [3, 7]) ∧
      f.findAll [3, 7] = f.findAll [3, 7, 4] ∧
      (f.findEach [3, 11]).1.mapM id = .ok [3, 2] ∧
      ∃ results f', Serves f (.findEach [3, 0, 7, 3]) (.each results) f' ∧
        results.mapM id = .error (.invalidInput .zeroDivisor) := by
  intro f g
  have hf : f.Reachable := ⟨.table, [.repunit 2, .setLimit 5], _, session_serveAll _ _⟩
  have hg : g.Reachable := ⟨.remainder, [.find 13, .setLimit 5], _, session_serveAll _ _⟩
  have hlimit : g.limit = f.limit := by decide +kernel
  have hthree : (g.find 3).1 = .ok 3 := by decide +kernel
  have heleven : (g.find 11).1 = .ok 2 := by decide +kernel
  have hseven : (g.find 7).1 = .error (.limitExceeded 7 5) := by decide +kernel
  have hzero : (g.find 0).1 = .error (.invalidInput .zeroDivisor) := by decide +kernel
  have hfront : ∀ x ∈ [(3 : UInt64)], ∃ k, (g.find x).1 = .ok k := by simp [hthree]
  obtain ⟨hfound, -, hfailed, -, heach⟩ := findAll_failsFast hf hg hlimit
  obtain ⟨hstops, hlater⟩ := hfailed [3] 7 [4] _ hfront hseven
  obtain ⟨hstops', -⟩ := hfailed [3] 0 [7, 3] _ hfront hzero
  have hdone : ((f.pool [3, 0, 7, 3]).run f.bound
      (List.replicate 18 [2, 3, 0, 1]).flatten).reports?.isSome = true :=
    Pool.reports?_of_turns _ (by decide +kernel)
  obtain ⟨reports, hreports⟩ := Option.isSome_iff_exists.mp hdone
  have hserves : Serves f (.findEach [3, 0, 7, 3]) _ _ := .scheduled _ _ hreports
  have hboth : (f.findAll [3, 11]).1 = .ok [3, 2] :=
    (hfound _ _).mpr (.cons hthree (.cons heleven .nil))
  refine ⟨hf, hg, hlimit, hboth, hstops, hlater [], ?_, _, _, hserves, ?_⟩
  · rw [← (heach [3, 11]).1]
    exact hboth
  · rw [← (heach _).2 _ _ hserves]
    exact congrArg Prod.fst hstops'

end Repunits.Finder
