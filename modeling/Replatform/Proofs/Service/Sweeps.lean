import Mathlib.Logic.Function.Iterate
import Replatform.Proofs.Service.FixedWindow

/-!
# Sweeping Out Windows

The store of windows is swept by the requests that it counts. A request is one that sweeps by its
number, and the number is kept in a machine word that starts again from zero. Since the interval from
one sweep to the next divides the size of the word, nobody can tell: the sweeps go on in step with the
requests that were ever counted (`isSweeping_hitAll_iff`), and of any such number of requests in a row
one sweeps.

The requests of other clients only ever take the window of a client away, and only in a sweep. A window
that has ended is gone after the next one. A window that lasts longer than the time of a request is what
it was before, whether the request sweeps or not.

Nothing is assumed about the times of requests here. They may run backwards, and every request may bring
a window of its own length.

## Main definitions

* `Hit`, `WindowTable.hitAll`: Requests with windows of any length, and counting them.
* `WindowTable.SweepsOut`: What becomes of windows that have ended, and of those that have not.

## Theorems

* `WindowTable.isSweeping_hitAll_iff`: Which requests sweep.
* `WindowTable.get?_of_get?_hitAll`: The requests of others bring no window.
* `WindowTable.get?_hitAll_of_lasts`: What a window is that has not ended.
* `WindowTable.sweepsOut`: Windows are swept out when they have ended, and not before.
-/

namespace Replatform

/-- A request that is counted: whose it is, when it is made, and how long a window it may open. -/
structure Hit where
  client : String
  now : Instant
  span : Int
deriving DecidableEq

namespace WindowTable

/-- Count requests one after another. -/
def hitAll (t : WindowTable) (hits : List Hit) : WindowTable :=
  hits.foldl (fun t h => (t.hit h.client h.now h.span).2) t

variable {t : WindowTable} {client : String} {w : Window}

theorem hitAll_append (t : WindowTable) (hits hits' : List Hit) :
    t.hitAll (hits ++ hits') = (t.hitAll hits).hitAll hits' :=
  List.foldl_append

section Counter

/-- The counter of requests starts again from zero in step with the sweeps. -/
theorem hits_hit_mod (t : WindowTable) (h : Hit) :
    (t.hit h.client h.now h.span).2.hits % sweepInterval = (t.hits + 1) % sweepInterval := by
  have hdvd : sweepInterval ∣ UInt64.size := by decide
  exact Nat.mod_mod_of_dvd _ hdvd

theorem hits_hitAll_mod (t : WindowTable) (hits : List Hit) :
    (t.hitAll hits).hits % sweepInterval = (t.hits + hits.length) % sweepInterval := by
  induction hits generalizing t with
  | nil => rfl
  | cons h hits ih =>
      calc ((t.hit h.client h.now h.span).2.hitAll hits).hits % sweepInterval
          = ((t.hit h.client h.now h.span).2.hits + hits.length) % sweepInterval := ih _
        _ = ((t.hits + 1) + hits.length) % sweepInterval := by
              rw [Nat.add_mod, hits_hit_mod, ← Nat.add_mod]
        _ = (t.hits + (h :: hits).length) % sweepInterval := by
              rw [List.length_cons, Nat.add_assoc, Nat.add_comm 1]

/-- A request sweeps if the number of requests that were ever counted before it is the last one of an
    interval. -/
theorem isSweeping_hitAll_iff (t : WindowTable) (hits : List Hit) :
    (t.hitAll hits).isSweeping = true ↔
      (t.hits + hits.length) % sweepInterval = sweepInterval - 1 := by
  rw [isSweeping, beq_iff_eq, hits_hitAll_mod]

/-- Of as many requests in a row as there are in an interval, one sweeps. -/
theorem exists_isSweeping (t : WindowTable) {hits : List Hit} (hlength : sweepInterval ≤ hits.length) :
    ∃ earlier h later, hits = earlier ++ h :: later ∧ (t.hitAll earlier).isSweeping = true := by
  have hinterval : sweepInterval = 64 := rfl
  -- So many requests are left up to the end of the interval.
  have hlt : 63 - t.hits % 64 < hits.length := by omega
  refine ⟨hits.take (63 - t.hits % 64), hits[63 - t.hits % 64], hits.drop (63 - t.hits % 64 + 1), ?_, ?_⟩
  · rw [List.getElem_cons_drop, List.take_append_drop]
  · rw [isSweeping_hitAll_iff, List.length_take, hinterval]
    omega

end Counter

section Others

/-- A sweep brings no window. -/
theorem get?_of_get?_swept {now : Instant} (h : (t.swept now).windows.get? client = some w) :
    t.windows.get? client = some w := by
  rw [swept] at h
  by_cases hsweeping : t.isSweeping = true
  · rw [if_pos hsweeping, get?_prune, Option.filter_eq_some_iff] at h
    exact h.1
  · rwa [if_neg hsweeping] at h

/-- A request of another client brings no window. -/
theorem get?_of_get?_hit {h : Hit} (hother : h.client ≠ client)
    (hw : (t.hit h.client h.now h.span).2.windows.get? client = some w) :
    t.windows.get? client = some w := by
  rw [get?_hit, if_neg hother.symm] at hw
  exact get?_of_get?_swept hw

/-- The requests of other clients bring no window, however many they are. -/
theorem get?_of_get?_hitAll {hits : List Hit} (hothers : ∀ h ∈ hits, h.client ≠ client)
    (hw : (t.hitAll hits).windows.get? client = some w) : t.windows.get? client = some w := by
  induction hits generalizing t with
  | nil => exact hw
  | cons h hits ih =>
      rw [List.forall_mem_cons] at hothers
      exact get?_of_get?_hit hothers.1 (ih hothers.2 hw)

/-- A sweep leaves no window that has ended. -/
theorem lt_of_get?_swept {now : Instant} (hsweeping : t.isSweeping = true)
    (hw : (t.swept now).windows.get? client = some w) : now < w.resetAt := by
  rw [swept, if_pos hsweeping, get?_prune, Option.filter_eq_some_iff] at hw
  exact of_decide_eq_true hw.2

end Others

section Lasting

/-- A sweep leaves every window that has not ended. -/
theorem get?_swept_of_lasts {now : Instant} (hw : t.windows.get? client = some w)
    (hlasts : now < w.resetAt) : (t.swept now).windows.get? client = some w := by
  rw [swept]
  by_cases hsweeping : t.isSweeping = true
  · rw [if_pos hsweeping, get?_prune, hw]
    exact Option.filter_some_pos (decide_eq_true hlasts)
  · rwa [if_neg hsweeping]

/-- A request leaves every window that has not ended, and is counted in it if it is the client's. -/
theorem get?_hit_of_lasts {h : Hit} (hw : t.windows.get? client = some w) (hlasts : h.now < w.resetAt) :
    (t.hit h.client h.now h.span).2.windows.get? client =
      some (if h.client = client then count w else w) := by
  have hswept := get?_swept_of_lasts hw hlasts
  rw [get?_hit]
  by_cases hclient : h.client = client
  · subst hclient
    have hcurrent : current (some w) h.now h.span = w := if_neg (Int.not_le.mpr hlasts)
    have hcounted : (t.hit h.client h.now h.span).1 =
        count (current ((t.swept h.now).windows.get? h.client) h.now h.span) := rfl
    rw [if_pos rfl, if_pos rfl, hcounted, hswept, hcurrent]
  · rw [if_neg (Ne.symm hclient), if_neg hclient, hswept]

/-- While it lasts, a window is what it was, with the requests of its client counted. -/
theorem get?_hitAll_of_lasts {hits : List Hit} (hw : t.windows.get? client = some w)
    (hlasts : ∀ h ∈ hits, h.now < w.resetAt) :
    (t.hitAll hits).windows.get? client = some (count^[hits.countP (·.client = client)] w) := by
  induction hits generalizing t w with
  | nil => exact hw
  | cons h hits ih =>
      rw [List.forall_mem_cons] at hlasts
      have hnext := get?_hit_of_lasts hw hlasts.1
      by_cases hclient : h.client = client
      · rw [if_pos hclient] at hnext
        -- To count a request does not move the end of a window.
        have hrest := ih (w := count w) hnext hlasts.2
        rw [List.countP_cons, if_pos (decide_eq_true hclient), Function.iterate_succ_apply]
        exact hrest
      · rw [if_neg hclient] at hnext
        rw [List.countP_cons, if_neg (mt of_decide_eq_true hclient)]
        exact ih hnext hlasts.2

end Lasting

/-- The store forgets the clients that have left, and no others. -/
structure SweepsOut (t : WindowTable) : Prop where
  /-- Sweeps go by the number of requests that were ever counted, whatever the counter can hold. -/
  inStep : ∀ hits, (t.hitAll hits).isSweeping = true ↔
    (t.hits + hits.length) % sweepInterval = sweepInterval - 1
  /-- A window that has ended is gone after an interval of requests of other clients. -/
  departed : ∀ (client : String) (w : Window) (time : Instant) (hits : List Hit),
    t.windows.get? client = some w → w.resetAt ≤ time → sweepInterval ≤ hits.length →
    (∀ h ∈ hits, h.client ≠ client ∧ time ≤ h.now) →
    (t.hitAll hits).windows.get? client = none
  /-- No sweep takes a window away that ends after the time of the request that sweeps. -/
  spared : ∀ (client : String) (w : Window) (hits : List Hit) (h : Hit),
    (t.hitAll hits).windows.get? client = some w → h.now < w.resetAt →
    ((t.hitAll hits).swept h.now).windows.get? client = some w ∧
    (t.hitAll (hits ++ [h])).windows.get? client =
      some (if h.client = client then count w else w)
  /-- While a window lasts, it is what it was, with the requests of its client counted. -/
  lasting : ∀ (client : String) (w : Window) (hits : List Hit),
    t.windows.get? client = some w → (∀ h ∈ hits, h.now < w.resetAt) →
    (t.hitAll hits).windows.get? client = some (count^[hits.countP (·.client = client)] w)

/-- Windows are swept out when they have ended and not before, whatever is in the table and however
    many requests were counted. -/
theorem sweepsOut (t : WindowTable) : t.SweepsOut where
  inStep hits := t.isSweeping_hitAll_iff hits
  departed client w time hits hw hended hlength hhits := by
    rcases t.exists_isSweeping hlength with ⟨earlier, h, later, rfl, hsweeping⟩
    rw [List.forall_mem_append, List.forall_mem_cons] at hhits
    rcases hhits with ⟨hearlier, hh, hlater⟩
    refine Option.eq_none_iff_forall_ne_some.mpr fun w' hw' => ?_
    -- Had the client a window after all, it would be the one that was swept out.
    have hswept : ((t.hitAll earlier).swept h.now).windows.get? client = some w' := by
      rw [hitAll_append] at hw'
      have hhit := get?_of_get?_hitAll (t := ((t.hitAll earlier).hit h.client h.now h.span).2)
        (fun h' hh' => (hlater h' hh').1) hw'
      rwa [get?_hit, if_neg hh.1.symm] at hhit
    have hsame : t.windows.get? client = some w' :=
      get?_of_get?_hitAll (fun h' hh' => (hearlier h' hh').1) (get?_of_get?_swept hswept)
    have hlasts := lt_of_get?_swept hsweeping hswept
    -- But the sweep leaves it only if it ends later.
    rw [hw, Option.some.injEq] at hsame
    rw [← hsame] at hlasts
    exact Int.not_le.mpr hlasts (Int.le_trans hended hh.2)
  spared client w hits h hw hlasts := by
    refine ⟨get?_swept_of_lasts hw hlasts, ?_⟩
    rw [hitAll_append]
    exact get?_hit_of_lasts hw hlasts
  lasting client w hits hw hlasts := get?_hitAll_of_lasts hw hlasts

/-- The counter starts again from zero with the tenth request, which is the one that sweeps. -/
example : let t : WindowTable := { windows := Table.empty.insert "a" ⟨3, 5⟩, hits := UInt64.size - 10 }
    ((t.hitAll (List.replicate 9 ⟨"b", 5, 20⟩)).windows.get? "a").isSome = true ∧
      (t.hitAll (List.replicate 10 ⟨"b", 5, 20⟩)).windows.get? "a" = none ∧
      (t.hitAll (List.replicate 64 ⟨"b", 5, 20⟩)).hits = 54 := by decide +kernel

end WindowTable

end Replatform
