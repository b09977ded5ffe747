import Mathlib.Data.List.Chain

/-! Sequences cut greedily into windows: an element that is stale for the first
one of the running window starts the next. -/

namespace Sentinel5G.Base

variable {α β : Type} (stale : α → α → Bool)

def extendWindow (window : List α) (x : α) : List α :=
  match window with
  | [] => [x]
  | start :: rest => if stale start x then [x] else start :: (rest ++ [x])

def continued (window : List α) (x : α) : List α :=
  match window with
  | [] => []
  | start :: rest => if stale start x then [] else start :: rest

def Throughout (holds : List α → α → Prop) (xs : List α) : Prop :=
  ∀ before x after, xs = before ++ x :: after → holds before x

def openWindow (xs : List α) : List α := xs.foldl (extendWindow stale) []

/-- The windows of a sequence: none has an element that is stale for its first
one, and each starts with one that is stale for the first one of the window before. -/
structure Cut (xs : List α) (windows : List (List α)) : Prop where
  whole : windows.flatten = xs
  fresh : ∀ window ∈ windows, ∃ start rest, window = start :: rest ∧
    ∀ x ∈ rest, stale start x = false
  separate : windows.IsChain (fun window next =>
    ∀ start ∈ window.head?, ∀ first ∈ next.head?, stale start first = true)

def Peaks (high : List α → Prop) (xs : List α) : Prop :=
  ∃ past x rest, xs = past ++ x :: rest ∧ high (openWindow stale (past ++ [x]))

variable {stale}

theorem throughout_nil (holds : List α → α → Prop) : Throughout holds [] := by
  intro before x after split
  exact absurd split (by simp)

theorem Throughout.concat {holds : List α → α → Prop} {xs : List α} {last : α}
    (inner : Throughout holds xs) (latest : holds xs last) : Throughout holds (xs ++ [last]) := by
  intro before x after split
  rcases List.eq_nil_or_concat after with rfl | ⟨front, final, rfl⟩
  · obtain ⟨rfl, same⟩ := List.append_inj' split rfl
    cases same
    exact latest
  · rw [List.concat_eq_append, ← List.cons_append, ← List.append_assoc] at split
    exact inner before x front (List.append_inj' split rfl).1

theorem Throughout.init {holds : List α → α → Prop} {xs ys : List α}
    (whole : Throughout holds (xs ++ ys)) : Throughout holds xs := by
  intro before x after split
  apply whole before x (after ++ ys)
  rw [split, List.append_assoc, List.cons_append]

theorem Throughout.last {holds : List α → α → Prop} {xs : List α} {last : α}
    (whole : Throughout holds (xs ++ [last])) : holds xs last :=
  whole xs last [] rfl

theorem Throughout.map {β : Type} {holds : List β → β → Prop} {f : α → β} {xs : List α}
    (whole : Throughout (fun past x => holds (past.map f) (f x)) xs) :
    Throughout holds (xs.map f) := by
  intro before y after split
  obtain ⟨front, back, rfl, rfl, tail⟩ := List.map_eq_append_iff.mp split
  obtain ⟨x, rest, rfl, rfl, rfl⟩ := List.map_eq_cons_iff.mp tail
  exact whole front x rest rfl

theorem openWindow_concat (xs : List α) (x : α) :
    openWindow stale (xs ++ [x]) = extendWindow stale (openWindow stale xs) x := by
  rw [openWindow, List.foldl_append, List.foldl_cons, List.foldl_nil, openWindow]

theorem extendWindow_eq (window : List α) (x : α) :
    extendWindow stale window x = continued stale window x ++ [x] := by
  cases window with
  | nil => rfl
  | cons start rest =>
      rw [extendWindow, continued]
      split <;> rfl

theorem openWindow_ne_nil {xs : List α} (nonempty : xs ≠ []) : openWindow stale xs ≠ [] := by
  obtain ⟨front, last, rfl⟩ := List.eq_nil_or_concat xs |>.resolve_left nonempty
  rw [List.concat_eq_append, openWindow_concat, extendWindow_eq]
  simp

theorem mem_extendWindow {window : List α} {x y : α} (member : y ∈ extendWindow stale window x) :
    y ∈ window ∨ y = x := by
  unfold extendWindow at member
  split at member
  · exact .inr (List.mem_singleton.mp member)
  · split at member
    · exact .inr (List.mem_singleton.mp member)
    · rw [← List.cons_append, List.mem_append, List.mem_singleton] at member
      exact member

theorem mem_of_mem_openWindow {xs : List α} {x : α} (member : x ∈ openWindow stale xs) :
    x ∈ xs := by
  induction xs using List.reverseRecOn with
  | nil => exact member
  | append_singleton xs last ih =>
      rw [openWindow_concat] at member
      rw [List.mem_append, List.mem_singleton]
      exact (mem_extendWindow member).imp_left ih

theorem length_openWindow_le (xs : List α) : (openWindow stale xs).length ≤ xs.length := by
  induction xs using List.reverseRecOn with
  | nil => exact Nat.le_refl _
  | append_singleton xs last ih =>
      rw [openWindow_concat, extendWindow_eq, List.length_append, List.length_append]
      apply Nat.add_le_add_right
      cases window : openWindow stale xs with
      | nil => exact Nat.zero_le _
      | cons start rest =>
          rw [window] at ih
          rw [continued]
          split
          · exact Nat.zero_le _
          · exact ih

/-- Windows do not change under a map that keeps, between an element and a later
one, what is stale. -/
theorem map_openWindow {stale' : β → β → Bool} {f : α → β} {xs : List α}
    (same : xs.Pairwise (fun x y => stale' (f x) (f y) = stale x y)) :
    (openWindow stale xs).map f = openWindow stale' (xs.map f) := by
  induction xs using List.reverseRecOn with
  | nil => rfl
  | append_singleton xs last ih =>
      rw [List.pairwise_append] at same
      rw [List.map_append, List.map_singleton, openWindow_concat, openWindow_concat, ← ih same.1]
      cases window : openWindow stale xs with
      | nil => rfl
      | cons start rest =>
          have member : start ∈ xs :=
            mem_of_mem_openWindow (by rw [window]; exact List.mem_cons_self)
          have agree := same.2.2 start member last (List.mem_singleton_self last)
          simp only [extendWindow, List.map_cons, agree]
          split
          · rfl
          · rw [List.map_cons, List.map_append, List.map_singleton]

theorem map_continued {stale' : β → β → Bool} {f : α → β} {xs : List α} {x : α}
    (same : (xs ++ [x]).Pairwise (fun x y => stale' (f x) (f y) = stale x y)) :
    (continued stale (openWindow stale xs) x).map f =
      continued stale' (openWindow stale' (xs.map f)) (f x) := by
  have whole := map_openWindow same
  rw [List.map_append, List.map_singleton, openWindow_concat, openWindow_concat, extendWindow_eq,
    extendWindow_eq, List.map_append, List.map_singleton] at whole
  exact (List.append_inj' whole rfl).1

theorem Cut.next {xs : List α} {earlier : List (List α)} {start x : α} {rest : List α}
    (cut : Cut stale xs (earlier ++ [start :: rest])) (late : stale start x = true) :
    Cut stale (xs ++ [x]) (earlier ++ [start :: rest] ++ [[x]]) := by
  refine ⟨?_, fun window member => ?_, ?_⟩
  · rw [List.flatten_append, cut.whole, List.flatten_singleton]
  · rcases List.mem_append.mp member with inside | last
    · exact cut.fresh window inside
    · exact ⟨x, [], List.mem_singleton.mp last, by simp⟩
  · rw [List.isChain_append]
    refine ⟨cut.separate, List.isChain_singleton _, fun window last next found => ?_⟩
    rw [List.getLast?_concat, Option.mem_def, Option.some.injEq] at last
    rw [List.head?_cons, Option.mem_def, Option.some.injEq] at found
    subst last found
    rintro _ ⟨⟩ _ ⟨⟩
    exact late

theorem Cut.grow {xs : List α} {earlier : List (List α)} {start x : α} {rest : List α}
    (cut : Cut stale xs (earlier ++ [start :: rest])) (early : stale start x = false) :
    Cut stale (xs ++ [x]) (earlier ++ [start :: (rest ++ [x])]) := by
  have separate := cut.separate
  rw [List.isChain_append] at separate
  refine ⟨?_, fun window member => ?_, ?_⟩
  · rw [← cut.whole, List.flatten_append, List.flatten_append, List.flatten_singleton,
      List.flatten_singleton, List.append_assoc, List.cons_append]
  · rcases List.mem_append.mp member with inside | last
    · exact cut.fresh window (List.mem_append_left _ inside)
    · obtain ⟨_, _, same, inside⟩ :=
        cut.fresh (start :: rest) (List.mem_append_right _ (List.mem_singleton_self _))
      cases same
      refine ⟨start, rest ++ [x], List.mem_singleton.mp last, fun y member => ?_⟩
      rcases List.mem_append.mp member with old | new
      · exact inside y old
      · rwa [List.mem_singleton.mp new]
  · rw [List.isChain_append]
    refine ⟨separate.1, List.isChain_singleton _, fun window last next found => ?_⟩
    rw [List.head?_cons, Option.mem_def, Option.some.injEq] at found
    subst found
    exact separate.2.2 window last (start :: rest) rfl

/-- The open window is the last one of a cut. What holds of every element and
what it finds of the running window holds throughout the windows. -/
theorem cut_openWindow_throughout {holds : List α → α → Prop} {xs : List α} (nonempty : xs ≠ [])
    (step : Throughout (fun past x => holds (continued stale (openWindow stale past) x) x) xs) :
    ∃ earlier, Cut stale xs (earlier ++ [openWindow stale xs]) ∧
      ∀ window ∈ earlier ++ [openWindow stale xs], Throughout holds window := by
  induction xs using List.reverseRecOn with
  | nil => exact absurd rfl nonempty
  | append_singleton xs last ih =>
      have latest := step.last
      rw [openWindow_concat, extendWindow_eq]
      by_cases first : xs = []
      · subst first
        refine ⟨[], ⟨rfl, fun window member => ?_, List.isChain_singleton _⟩,
          fun window member => ?_⟩
        · rw [List.nil_append, List.mem_singleton] at member
          exact ⟨last, [], member, by simp⟩
        · rw [List.nil_append, List.mem_singleton] at member
          rw [member]
          exact (throughout_nil holds).concat latest
      · obtain ⟨earlier, cut, inside⟩ := ih first step.init
        obtain ⟨start, rest, window, -⟩ :=
          cut.fresh _ (List.mem_append_right _ (List.mem_singleton_self _))
        rw [window] at cut inside latest ⊢
        rw [continued] at latest ⊢
        cases late : stale start last with
        | true =>
            simp only [late, if_true, List.nil_append] at latest ⊢
            refine ⟨earlier ++ [start :: rest], cut.next late, fun window member => ?_⟩
            rcases List.mem_append.mp member with old | new
            · exact inside window old
            · rw [List.mem_singleton.mp new]
              exact (throughout_nil holds).concat latest
        | false =>
            simp only [late, Bool.false_eq_true, if_false] at latest ⊢
            refine ⟨earlier, cut.grow late, fun window member => ?_⟩
            rcases List.mem_append.mp member with old | new
            · exact inside window (List.mem_append_left _ old)
            · rw [List.mem_singleton.mp new]
              exact (inside _ (List.mem_append_right _ (List.mem_singleton_self _))).concat latest

theorem cut_openWindow {xs : List α} (nonempty : xs ≠ []) :
    ∃ earlier, Cut stale xs (earlier ++ [openWindow stale xs]) := by
  obtain ⟨earlier, cut, -⟩ :=
    @cut_openWindow_throughout α stale (fun _ _ => True) xs nonempty (fun _ _ _ _ => trivial)
  exact ⟨earlier, cut⟩

theorem foldl_extendWindow {start : α} {rest : List α} (front : List α)
    (fresh : ∀ x ∈ rest, stale start x = false) :
    rest.foldl (extendWindow stale) (start :: front) = start :: (front ++ rest) := by
  induction rest generalizing front with
  | nil => rw [List.foldl_nil, List.append_nil]
  | cons x rest ih =>
      have early : stale start x = false := fresh x List.mem_cons_self
      rw [List.foldl_cons, extendWindow, early, if_neg Bool.false_ne_true,
        ih _ fun y member => fresh y (List.mem_cons_of_mem x member)]
      simp

theorem Cut.last_eq {xs : List α} {earlier : List (List α)} {window : List α}
    (cut : Cut stale xs (earlier ++ [window])) : openWindow stale xs = window := by
  obtain ⟨start, rest, rfl, fresh⟩ :=
    cut.fresh window (List.mem_append_right _ (List.mem_singleton_self window))
  -- the first element of the window finds the one before passed, by induction
  have begun : extendWindow stale (openWindow stale earlier.flatten) start = [start] := by
    clear fresh
    induction earlier using List.reverseRecOn generalizing xs start rest with
    | nil => rfl
    | append_singleton earlier before ih =>
        have separate := List.isChain_append.mp cut.separate
        have inner : Cut stale (earlier ++ [before]).flatten (earlier ++ [before]) :=
          ⟨rfl, fun window member => cut.fresh window (List.mem_append_left _ member), separate.1⟩
        obtain ⟨first, others, rfl, fresh⟩ :=
          inner.fresh before (List.mem_append_right _ (List.mem_singleton_self before))
        have open_eq : openWindow stale (earlier ++ [first :: others]).flatten =
            first :: others := by
          rw [List.flatten_append, List.flatten_singleton, openWindow, List.foldl_append,
            List.foldl_cons, ← openWindow, ih first others inner, foldl_extendWindow [] fresh,
              List.nil_append]
        have late : stale first start = true :=
          separate.2.2 (first :: others) (by simp) (start :: rest) rfl first rfl start rfl
        rw [open_eq, extendWindow, late, if_pos rfl]
  rw [← cut.whole, List.flatten_append, List.flatten_singleton, openWindow, List.foldl_append,
    List.foldl_cons, ← openWindow, begun, foldl_extendWindow [] fresh, List.nil_append]

/-- Every window but the last one has been passed by a later element. -/
theorem Cut.stale_of_mem {xs : List α} {earlier : List (List α)} {last window : List α}
    (cut : Cut stale xs (earlier ++ [last])) (member : window ∈ earlier) :
    ∃ start ∈ window.head?, ∃ x ∈ xs, stale start x = true := by
  obtain ⟨front, back, rfl⟩ := List.append_of_mem member
  obtain ⟨next, rest, behind⟩ : ∃ next rest, back ++ [last] = next :: rest :=
    List.exists_cons_of_ne_nil (by simp)
  have whole : front ++ window :: back ++ [last] = front ++ window :: next :: rest := by
    rw [List.append_assoc, List.cons_append, behind]
  rw [whole] at cut
  have separate := (List.isChain_append.mp cut.separate).2.1
  obtain ⟨start, others, rfl, -⟩ := cut.fresh window (by simp)
  obtain ⟨first, followers, rfl, -⟩ := cut.fresh next (by simp)
  refine ⟨start, rfl, first, ?_, (List.isChain_cons_cons.mp separate).1 start rfl first rfl⟩
  rw [← cut.whole]
  exact List.mem_flatten.mpr ⟨first :: followers, by simp, List.mem_cons_self⟩

theorem Cut.upTo {xs : List α} {earlier : List (List α)} {front back : List α} {x : α}
    (cut : Cut stale xs (earlier ++ [front ++ x :: back])) :
    Cut stale (earlier.flatten ++ (front ++ [x])) (earlier ++ [front ++ [x]]) := by
  have head : (front ++ [x]).head? = (front ++ x :: back).head? := by
    cases front <;> rfl
  have separate := List.isChain_append.mp cut.separate
  refine ⟨by rw [List.flatten_append, List.flatten_singleton], fun window member => ?_, ?_⟩
  · rcases List.mem_append.mp member with inside | last
    · exact cut.fresh window (List.mem_append_left _ inside)
    · obtain ⟨start, rest, same, fresh⟩ :=
        cut.fresh (front ++ x :: back) (List.mem_append_right _ (List.mem_singleton_self _))
      rw [List.mem_singleton.mp last]
      cases front with
      | nil => exact ⟨x, [], rfl, by simp⟩
      | cons first front =>
          rw [List.cons_append, List.cons.injEq] at same
          obtain ⟨rfl, rfl⟩ := same
          refine ⟨first, front ++ [x], rfl, fun y member => fresh y ?_⟩
          rw [List.mem_append, List.mem_singleton] at member
          rw [List.mem_append, List.mem_cons]
          exact member.imp_right .inl
  · rw [List.isChain_append]
    refine ⟨separate.1, List.isChain_singleton _, fun window last next found => ?_⟩
    rw [List.head?_cons, Option.mem_def, Option.some.injEq] at found
    rw [← found, head]
    exact separate.2.2 window last _ rfl

theorem Cut.exists_concat {xs : List α} {earlier : List (List α)} {window : List α}
    (cut : Cut stale xs (earlier ++ [window])) : ∃ front last, window = front ++ [last] := by
  rcases List.eq_nil_or_concat window with rfl | ⟨front, last, rfl⟩
  · obtain ⟨_, _, impossible, -⟩ := cut.fresh [] (by simp)
    cases impossible
  · exact ⟨front, last, List.concat_eq_append⟩

theorem cut_of_fresh {start : α} {rest : List α} (fresh : ∀ x ∈ rest, stale start x = false) :
    Cut stale (start :: rest) [start :: rest] where
  whole := by rw [List.flatten_singleton]
  fresh window member := ⟨start, rest, List.mem_singleton.mp member, fresh⟩
  separate := List.isChain_singleton _

theorem exists_cut_throughout {holds : List α → α → Prop} {xs : List α}
    (step : Throughout (fun past x => holds (continued stale (openWindow stale past) x) x) xs) :
    ∃ windows, Cut stale xs windows ∧ ∀ window ∈ windows, Throughout holds window := by
  by_cases empty : xs = []
  · subst empty
    exact ⟨[], ⟨rfl, by simp, List.isChain_nil⟩, by simp⟩
  · obtain ⟨earlier, cut, inside⟩ := cut_openWindow_throughout empty step
    exact ⟨_, cut, inside⟩

/-- Two notions of what is stale that agree on the elements of a sequence and the
first ones of the running windows give the same windows. -/
theorem openWindow_congr {stale' : α → α → Bool} {xs : List α}
    (same : Throughout (fun past x => ∀ start ∈ (openWindow stale past).head?,
      stale' start x = stale start x) xs) : openWindow stale' xs = openWindow stale xs := by
  induction xs using List.reverseRecOn with
  | nil => rfl
  | append_singleton xs last ih =>
      rw [openWindow_concat, openWindow_concat, ih same.init]
      have agree := same.last
      cases window : openWindow stale xs with
      | nil => rfl
      | cons start rest => rw [extendWindow, extendWindow, agree start (by rw [window]; rfl)]

section Peaks

variable {high : List α → Prop}

theorem not_peaks_nil : ¬ Peaks stale high [] := by
  rintro ⟨past, x, rest, split, -⟩
  exact absurd split (by simp)

theorem peaks_concat {xs : List α} {last : α} :
    Peaks stale high (xs ++ [last]) ↔
      Peaks stale high xs ∨ high (openWindow stale (xs ++ [last])) := by
  constructor
  · rintro ⟨past, x, rest, split, reached⟩
    rcases List.eq_nil_or_concat rest with rfl | ⟨front, final, rfl⟩
    · exact .inr (split ▸ reached)
    · rw [List.concat_eq_append, ← List.cons_append, ← List.append_assoc] at split
      exact .inl ⟨past, x, front, (List.append_inj' split rfl).1, reached⟩
  · rintro (⟨past, x, rest, rfl, reached⟩ | reached)
    · exact ⟨past, x, rest ++ [last], by simp, reached⟩
    · exact ⟨xs, last, [], rfl, reached⟩

theorem Peaks.append {xs : List α} (peaks : Peaks stale high xs) (more : List α) :
    Peaks stale high (xs ++ more) := by
  obtain ⟨past, x, rest, rfl, reached⟩ := peaks
  exact ⟨past, x, rest ++ more, by simp, reached⟩

theorem Peaks.imp_of_mem {high' : List α → Prop} {xs : List α} (peaks : Peaks stale high xs)
    (weaker : ∀ window, (∀ x ∈ window, x ∈ xs) → high window → high' window) :
    Peaks stale high' xs := by
  obtain ⟨past, x, rest, rfl, reached⟩ := peaks
  refine ⟨past, x, rest, rfl, weaker _ (fun y member => ?_) reached⟩
  have inside := mem_of_mem_openWindow member
  rw [List.mem_append, List.mem_singleton] at inside
  rw [List.mem_append, List.mem_cons]
  exact inside.imp_right .inl

theorem Peaks.imp {high' : List α → Prop} {xs : List α} (peaks : Peaks stale high xs)
    (weaker : ∀ window, high window → high' window) : Peaks stale high' xs :=
  peaks.imp_of_mem fun window _ => weaker window

theorem peaks_or {high' : List α → Prop} {xs : List α} :
    Peaks stale (fun window => high window ∨ high' window) xs ↔
      Peaks stale high xs ∨ Peaks stale high' xs := by
  constructor
  · rintro ⟨past, x, rest, split, first | second⟩
    · exact .inl ⟨past, x, rest, split, first⟩
    · exact .inr ⟨past, x, rest, split, second⟩
  · rintro (peaks | peaks)
    · exact peaks.imp fun _ => .inl
    · exact peaks.imp fun _ => .inr

theorem peaks_and {holds : Prop} {xs : List α} :
    Peaks stale (fun window => holds ∧ high window) xs ↔ holds ∧ Peaks stale high xs := by
  constructor
  · rintro ⟨past, x, rest, split, given, reached⟩
    exact ⟨given, past, x, rest, split, reached⟩
  · rintro ⟨given, peaks⟩
    exact peaks.imp fun _ reached => ⟨given, reached⟩

theorem peaks_map {stale' : β → β → Bool} {high : List β → Prop} {f : α → β} {xs : List α}
    (same : xs.Pairwise (fun x y => stale' (f x) (f y) = stale x y)) :
    Peaks stale' high (xs.map f) ↔ Peaks stale (fun window => high (window.map f)) xs := by
  induction xs using List.reverseRecOn with
  | nil => exact iff_of_false not_peaks_nil not_peaks_nil
  | append_singleton xs last ih =>
      have whole := map_openWindow same
      rw [List.map_append, List.map_singleton] at whole ⊢
      rw [peaks_concat, peaks_concat, ih (List.pairwise_append.mp same).1, whole]

theorem peaks_congr {stale' : α → α → Bool} {xs : List α}
    (same : Throughout (fun past x => ∀ start ∈ (openWindow stale past).head?,
      stale' start x = stale start x) xs) : Peaks stale' high xs ↔ Peaks stale high xs := by
  induction xs using List.reverseRecOn with
  | nil => exact iff_of_false not_peaks_nil not_peaks_nil
  | append_singleton xs last ih =>
      rw [peaks_concat, peaks_concat, ih same.init, openWindow_congr same]

theorem Peaks.exists_sublist {xs : List α} (peaks : Peaks stale high xs) :
    ∃ start rest, (start :: rest).Sublist xs ∧ (∀ x ∈ rest, stale start x = false) ∧
      high (start :: rest) := by
  obtain ⟨past, last, rest, rfl, reached⟩ := peaks
  obtain ⟨earlier, cut⟩ := @cut_openWindow α stale (past ++ [last]) (by simp)
  obtain ⟨start, others, window, fresh⟩ :=
    cut.fresh _ (List.mem_append_right _ (List.mem_singleton_self _))
  have whole := cut.whole
  rw [List.flatten_append, List.flatten_singleton, window] at whole
  refine ⟨start, others, ?_, fresh, window ▸ reached⟩
  calc (start :: others).Sublist (earlier.flatten ++ start :: others) :=
        List.sublist_append_right _ _
    _ = past ++ [last] := whole
    List.Sublist _ (past ++ last :: rest) := by simp

end Peaks

end Sentinel5G.Base
