import Sentinel5G.Base.History
import Sentinel5G.Base.Trace
import Sentinel5G.Controller.PodIPIndex

namespace Sentinel5G.Controller.PodIPIndex

open Base Api

theorem lookup_put (index : PodIPIndex) {moved : String} (address : moved ≠ "") (owner : PodRef)
    (ip : String) :
    (index.put moved owner).lookup ip =
      if moved = ip then some owner
      else if index.lookup ip = some owner then none else index.lookup ip := by
  rw [put, if_neg address]
  simp only [lookup, Std.ExtTreeMap.getElem?_insert, Std.LawfulEqCmp.compare_eq_iff_eq]
  split
  · rfl
  · rename_i elsewhere
    exact getElem?_moved index owner (Ne.symm elsewhere)

theorem lookup_remove (index : PodIPIndex) (key : PodRef) (ip : String) :
    (index.remove key).lookup ip =
      if index.lookup ip = some key then none else index.lookup ip := by
  rw [remove]
  split
  · rename_i unknown
    rw [if_neg]
    intro held
    cases unknown.symm.trans (index.owned ip key held)
  · rename_i known found
    exact getElem?_evict_known index found ip

inductive Call
  | put (ip : String) (ref : PodRef)
  | remove (ref : PodRef)
  deriving DecidableEq

def apply (index : PodIPIndex) : Call → PodIPIndex
  | .put ip ref => index.put ip ref
  | .remove ref => index.remove ref

/-- A later put on the same address, or one that gives the Pod another address, or
the removal of the Pod. -/
def Call.Overrides : Call → Call → Prop
  | .put later owner, .put ip ref => later = ip ∨ owner = ref ∧ later ≠ ip ∧ later ≠ ""
  | .remove gone, .put _ ref => gone = ref
  | _, .remove _ => False

def after (history : List Call) : PodIPIndex := runMoves apply new history

theorem after_concat (history : List Call) (last : Call) :
    after (history ++ [last]) = (after history).apply last :=
  runMoves_concat new history last

/-- The owner of an address is the Pod of the put that stands. -/
theorem lookup_after_iff (history : List Call) {ip : String} (address : ip ≠ "") (ref : PodRef) :
    (after history).lookup ip = some ref ↔ Stands Call.Overrides (.put ip ref) history := by
  induction history using List.reverseRecOn with
  | nil =>
      have empty : (after []).lookup ip = none := by simp [after, runMoves, lookup, new]
      rw [empty]
      exact iff_of_false (by simp) not_stands_nil
  | append_singleton history last ih =>
      rw [after_concat, stands_concat, ← ih]
      cases last with
      | put later owner =>
          by_cases ignored : later = ""
          · have apart : ¬ later = ip := fun same => address (same.symm.trans ignored)
            rw [apply, put, if_pos ignored]
            simp [Call.Overrides, ignored, address, Ne.symm address]
          · rw [apply, lookup_put _ ignored]
            by_cases same : later = ip
            · simp [Call.Overrides, same, eq_comm]
            · rw [if_neg same, without_eq_some_iff]
              simp [Call.Overrides, same, Ne.symm same, ignored]
      | remove gone =>
          rw [apply, lookup_remove, without_eq_some_iff]
          simp [Call.Overrides]

structure OwnersKept (history : List Call) : Prop where
  owner : ∀ ip ref, ip ≠ "" →
    ((after history).lookup ip = some ref ↔ Stands Call.Overrides (.put ip ref) history)
  nobody : (after history).lookup "" = none
  /-- The reverse map leads to every entry. -/
  reachable : ∀ (ip : String) (ref : PodRef), (after history).byIP[ip]? = some ref →
    (after history).byPod[ref]? = some ip
  /-- A Pod that is removed leaves no entry. -/
  removed : ∀ ip ref, ((after history).remove ref).lookup ip ≠ some ref
  /-- A Pod that moves leaves no entry under another address. -/
  moved : ∀ ip moved ref, moved ≠ "" → ip ≠ moved →
    ((after history).put moved ref).lookup ip ≠ some ref
  /-- No other Pod takes an entry away, unless it is put on the address. -/
  undisturbed : ∀ ip ref, (after history).lookup ip = some ref → ∀ other, other ≠ ref →
    ((after history).remove other).lookup ip = some ref ∧
      ∀ moved, moved ≠ ip → ((after history).put moved other).lookup ip = some ref

theorem lookup_nowhere (history : List Call) : (after history).lookup "" = none := by
  induction history using List.reverseRecOn with
  | nil => simp [after, runMoves, lookup, new]
  | append_singleton history last ih =>
      rw [after_concat]
      cases last with
      | put ip ref =>
          by_cases ignored : ip = ""
          · rw [apply, put, if_pos ignored, ih]
          · rw [apply, lookup_put _ ignored, if_neg ignored, ih]
            simp
      | remove ref =>
          rw [apply, lookup_remove, ih]
          simp

theorem owners_are_kept (history : List Call) : OwnersKept history where
  owner := fun ip ref address => lookup_after_iff history address ref
  nobody := lookup_nowhere history
  reachable := (after history).owned
  removed := by
    intro ip ref
    rw [lookup_remove, ne_eq, without_eq_some_iff]
    exact fun both => both.2 rfl
  moved := by
    intro ip moved ref address elsewhere
    rw [lookup_put _ address, if_neg (Ne.symm elsewhere), ne_eq, without_eq_some_iff]
    exact fun both => both.2 rfl
  undisturbed := by
    intro ip ref held other foreign
    constructor
    · rw [lookup_remove, without_eq_some_iff]
      exact ⟨held, foreign⟩
    · intro moved elsewhere
      by_cases ignored : moved = ""
      · rw [put, if_pos ignored, held]
      · rw [lookup_put _ ignored, if_neg elsewhere, without_eq_some_iff]
        exact ⟨held, foreign⟩

/-- A put on the empty address stands, and no Pod is found there. -/
theorem empty_address_is_not_kept :
    ¬ ((after [.put "" ⟨"core", "amf-0"⟩]).lookup "" = some ⟨"core", "amf-0"⟩ ↔
      Stands Call.Overrides (.put "" ⟨"core", "amf-0"⟩) [.put "" ⟨"core", "amf-0"⟩]) := by
  intro exact
  have standing : Stands Call.Overrides (.put "" ⟨"core", "amf-0"⟩)
      [.put "" ⟨"core", "amf-0"⟩] := ⟨[], [], rfl, by simp⟩
  have found := exact.mpr standing
  rw [lookup_nowhere] at found
  cases found

end Sentinel5G.Controller.PodIPIndex
