import Sentinel5G.Base.CheckedRead
import Sentinel5G.Base.Trace
import Sentinel5G.Ebpf.Pinning

/-! The enforcement maps across restarts of the operator. They are pinned, so the next
process finds them again; where an upgrade has changed one of them, all start anew. How
a collection is loaded is up to the library: what is relied on are the laws in `Loads`. -/

namespace Sentinel5G.Ebpf.Pinning

open Base

/-- What is relied on in a load, with `compatible` for what `Compatible` lets pass. -/
structure Loads (compatible : MapSpec → MapSpec → Prop) (load : Load) : Prop where
  kept : ∀ spec kernel map id, id < kernel.count map →
    (load spec kernel).2.maps map id = kernel.maps map id
  pinned : ∀ spec kernel map id, kernel.pins map = some id →
    (load spec kernel).2.pins map = some id
  /-- A map that is pinned anew is new, and flagged to be pinned. -/
  created : ∀ spec kernel map id, kernel.pins map = none →
    (load spec kernel).2.pins map = some id →
      ∃ wanted, spec map = some wanted ∧ wanted.pinning = .byName ∧
        (load spec kernel).2.maps map id = wanted.created
  /-- A collection has the pinned one of each map that is flagged. -/
  shared : ∀ spec kernel coll, (load spec kernel).1 = .ok coll →
    ∀ map wanted, spec map = some wanted → wanted.pinning = .byName →
      ∃ id, coll map = some id ∧ (load spec kernel).2.pins map = some id
  /-- Only a pin that is not compatible is refused. -/
  refused : ∀ spec kernel text, (load spec kernel).1 = .error (.mapIncompatible text) →
    ∃ map wanted id, spec map = some wanted ∧ wanted.pinning = .byName ∧
      kernel.pins map = some id ∧ ¬ compatible wanted (kernel.maps map id).spec

/-- The specification is the object's, with every map flagged to be pinned. -/
def Marked (object spec : CollectionSpec) : Prop :=
  ∀ map, ∃ wanted, object map = some wanted ∧ spec map = some { wanted with pinning := .byName }

theorem markPinned_ok {spec marked : CollectionSpec} {name : EnforcementMap}
    (done : markPinned spec name = .ok marked) :
    ∃ wanted, spec name = some wanted ∧
      marked = Function.update spec name (some { wanted with pinning := .byName }) := by
  rw [markPinned] at done
  split at done
  · cases done
  · rename_i wanted found
    exact ⟨wanted, found, (Except.ok.inj done).symm⟩

theorem foldlM_markPinned {object spec : CollectionSpec} (names : List EnforcementMap)
    (done : names.foldlM markPinned object = .ok spec) (map : EnforcementMap) :
    (map ∈ names → ∃ wanted, object map = some wanted ∧
        spec map = some { wanted with pinning := .byName }) ∧
      (map ∉ names → spec map = object map) := by
  induction names generalizing object with
  | nil =>
      cases done
      exact ⟨fun none => absurd none List.not_mem_nil, fun _ => rfl⟩
  | cons name names ih =>
      rw [List.foldlM_cons] at done
      obtain ⟨first, one, rest⟩ := bind_eq_ok_iff.mp done
      obtain ⟨wanted, found, rfl⟩ := markPinned_ok one
      obtain ⟨again, left⟩ := ih rest
      by_cases same : map = name
      · subst same
        refine ⟨fun _ => ⟨wanted, found, ?_⟩, fun absent => absurd List.mem_cons_self absent⟩
        by_cases twice : map ∈ names
        · obtain ⟨flagged, known, specified⟩ := again twice
          rw [Function.update_self] at known
          cases known
          exact specified
        · rw [left twice, Function.update_self]
      · rw [Function.update_of_ne same] at again left
        rw [List.mem_cons, or_iff_right same]
        exact ⟨again, left⟩

theorem markPinnedMaps_ok {object spec : CollectionSpec} (done : markPinnedMaps object = .ok spec) :
    Marked object spec := fun map =>
  (foldlM_markPinned pinnedMapNames done map).1 (by cases map <;> decide)

section Load

variable {compatible : MapSpec → MapSpec → Prop} {object spec : CollectionSpec} {load : Load}

/-- The pins are compatible with what the object wants. -/
def Fits (compatible : MapSpec → MapSpec → Prop) (object : CollectionSpec) (kernel : Kernel) :
    Prop :=
  ∀ map wanted id, object map = some wanted → kernel.pins map = some id →
    compatible { wanted with pinning := .byName } (kernel.maps map id).spec

/-- What a load newly pins is new. -/
theorem Loads.pinned_new (laws : Loads compatible load) (marked : Marked object spec)
    {kernel : Kernel} {map : EnforcementMap} {id : Nat} (free : kernel.pins map = none)
    (found : (load spec kernel).2.pins map = some id) :
    ∃ wanted, object map = some wanted ∧ (load spec kernel).2.maps map id =
      MapSpec.created { wanted with pinning := .byName } := by
  obtain ⟨flagged, specified, -, entry⟩ := laws.created spec kernel map id free found
  obtain ⟨wanted, known, same⟩ := marked map
  cases specified.symm.trans same
  exact ⟨wanted, known, entry⟩

theorem Loads.fits (laws : Loads compatible load) (reflexive : ∀ spec, compatible spec spec)
    (marked : Marked object spec) {kernel : Kernel} (fits : Fits compatible object kernel) :
    Fits compatible object (load spec kernel).2 := by
  intro map wanted id known found
  cases before : kernel.pins map with
  | some old =>
      have same := (laws.pinned spec kernel map old before).symm.trans found
      rw [Option.some.injEq] at same
      subst same
      rw [laws.kept spec kernel map old (kernel.held map old before)]
      exact fits map wanted old known before
  | none =>
      obtain ⟨same, known', entry⟩ := laws.pinned_new marked before found
      cases known.symm.trans known'
      rw [entry]
      exact reflexive _

/-- What is pinned comes into force, whatever a load adds. -/
theorem Loads.restored (laws : Loads compatible load) (marked : Marked object spec)
    (kernel : Kernel) : (load spec kernel).2.restored object = kernel.restored object := by
  refine congrArg Loader.mk (funext fun map => ?_)
  cases before : kernel.pins map with
  | some old =>
      rw [laws.pinned spec kernel map old before, Option.elim_some, Option.elim_some,
        laws.kept spec kernel map old (kernel.held map old before)]
  | none =>
      cases after : (load spec kernel).2.pins map with
      | none => rfl
      | some id =>
          obtain ⟨wanted, known, entry⟩ := laws.pinned_new marked before after
          rw [Option.elim_some, Option.elim_none, entry, capacity, known]
          rfl

theorem Loads.not_refused (laws : Loads compatible load) (marked : Marked object spec)
    {kernel : Kernel} (fits : Fits compatible object kernel) (text : String) :
    (load spec kernel).1 ≠ .error (.mapIncompatible text) := by
  intro refused
  obtain ⟨map, flagged, id, specified, -, found, differs⟩ := laws.refused spec kernel text refused
  obtain ⟨wanted, known, same⟩ := marked map
  cases specified.symm.trans same
  exact differs (fits map wanted id known found)

end Load

section Attach

variable {compatible : MapSpec → MapSpec → Prop} {object spec : CollectionSpec} {kernel : Kernel}
  {settings : Settings} {env : Surroundings}

/-- Pins that fit are not discarded: the first load is the only one. -/
theorem newPinnedCollection_fits (laws : Loads compatible env.first) (marked : Marked object spec)
    (fits : Fits compatible object kernel) :
    (newPinnedCollection env spec kernel).2 = (env.first spec kernel).2 ∧
      ∀ coll pinReset, (newPinnedCollection env spec kernel).1 = .ok (coll, pinReset) →
        (env.first spec kernel).1 = .ok coll ∧ pinReset = false := by
  have accepted := laws.not_refused marked fits
  rw [newPinnedCollection]
  generalize env.first spec kernel = outcome at *
  obtain ⟨result, after⟩ := outcome
  cases result with
  | ok coll =>
      refine ⟨rfl, fun other pinReset same => ?_⟩
      cases same
      exact ⟨rfl, rfl⟩
  | error err =>
      cases err with
      | other text => exact ⟨rfl, fun _ _ same => by cases same⟩
      | mapIncompatible text => exact absurd rfl (accepted text)

theorem removePins_ok {remove : EnforcementMap → Option String} {left : Kernel}
    (removed : removePins remove kernel = ([], left)) (map : EnforcementMap) :
    left.pins map = none := by
  rw [removePins, Prod.mk.injEq, List.filterMap_eq_nil_iff] at removed
  have gone := removed.1 map (by cases map <;> decide)
  rw [Option.map_eq_none_iff] at gone
  rw [← removed.2]
  exact if_neg (by rw [gone]; decide)

/-- Where pins are discarded, all are, and the second load starts from none. -/
theorem newPinnedCollection_reset {coll : Collection}
    (discards : (newPinnedCollection env spec kernel).1 = .ok (coll, true)) :
    ∃ bare : Kernel, (∀ map, bare.pins map = none) ∧
      (newPinnedCollection env spec kernel).2 = (env.second spec bare).2 := by
  rw [newPinnedCollection] at discards ⊢
  split at discards
  · cases discards
  · cases discards
  · split at discards
    · cases discards
    · rename_i left removed
      refine ⟨left, removePins_ok removed, ?_⟩
      split <;> exact congrArg Prod.snd (Eq.symm ‹_›)

theorem ensurePinDir_ok {path : String} {answers : PinDir}
    (done : ensurePinDir path answers = .ok ()) {type : Nat}
    (answered : answers.statfs = .ok type) : type = bpfFsMagic := by
  rw [ensurePinDir, answered] at done
  split at done
  · cases done
  · by_contra other
    dsimp only at done
    rw [if_pos other] at done
    cases done

theorem prepare_ok (pinning : settings.pinPath ≠ "") (prepared : prepare settings env = .ok spec) :
    (∃ object, env.object = .ok object ∧ Marked object spec) ∧
      ∀ type, env.pinDir.statfs = .ok type → type = bpfFsMagic := by
  rw [prepare] at prepared
  split at prepared
  · cases prepared
  · split at prepared
    · cases prepared
    · rename_i object loaded
      rw [if_neg pinning] at prepared
      split at prepared
      · cases prepared
      · rename_i made
        split at prepared
        · cases prepared
        · rename_i marked done
          cases prepared
          exact ⟨⟨object, loaded, markPinnedMaps_ok done⟩, fun _ => ensurePinDir_ok made⟩

/-- An attempt under which the maps are pinned as they have been. -/
structure Regular (compatible : MapSpec → MapSpec → Prop) (object : CollectionSpec)
    (env : Surroundings) : Prop where
  unchanged : ∀ spec, env.object = .ok spec → spec = object
  bpffs : ∀ type, env.pinDir.statfs = .ok type → type = bpfFsMagic
  loads : Loads compatible env.first

theorem ensurePinDir_kind {path : String} {answers : PinDir} {err : Err}
    (bpffs : ∀ type, answers.statfs = .ok type → type = bpfFsMagic)
    (failed : ensurePinDir path answers = .error err) : err.kind = .other := by
  rw [ensurePinDir] at failed
  split at failed
  · cases failed
    rfl
  · split at failed
    · cases failed
      rfl
    · rename_i type answered
      rw [if_neg (not_not.mpr (bpffs type answered))] at failed
      split at failed
      · cases failed
        rfl
      · cases failed

theorem foldlM_markPinned_kind {err : Err} (names : List EnforcementMap)
    (failed : names.foldlM markPinned spec = .error err) : err.kind = .other := by
  induction names generalizing spec with
  | nil => cases failed
  | cons name names ih =>
      rw [List.foldlM_cons] at failed
      cases found : spec name with
      | none =>
          rw [markPinned, found] at failed
          cases failed
          rfl
      | some wanted =>
          rw [markPinned, found] at failed
          exact ih failed

theorem prepare_kind {err : Err} (bpffs : ∀ type, env.pinDir.statfs = .ok type → type = bpfFsMagic)
    (failed : prepare settings env = .error err) : err.kind = .other := by
  rw [prepare] at failed
  split at failed
  · cases failed
    rfl
  · split at failed
    · cases failed
      rfl
    · split at failed
      · cases failed
      · split at failed
        · rename_i refused
          cases failed
          rw [Err.wrap_kind]
          exact ensurePinDir_kind bpffs refused
        · split at failed
          · rename_i unmarked
            cases failed
            rw [Err.wrap_kind]
            exact foldlM_markPinned_kind pinnedMapNames unmarked
          · cases failed

theorem newPinnedCollection_kind {err : Err}
    (failed : (newPinnedCollection env spec kernel).1 = .error err) : err.kind = .other := by
  rw [newPinnedCollection] at failed
  split at failed
  · cases failed
  · cases failed
    rfl
  · split at failed
    · cases failed
      rfl
    · split at failed
      · cases failed
        rfl
      · cases failed

theorem fault_kind {coll : Collection} {err : Err}
    (failed : fault settings env kernel coll = some err) : err.kind = .other := by
  simp only [fault, verifyEnforcementKeySizes, Option.or_eq_some_iff, Option.map_eq_some_iff,
    Option.ite_none_left_eq_some, Option.some.injEq] at failed
  rcases failed with ⟨-, rfl⟩ | ⟨-, ⟨_, -, rfl⟩ | ⟨-, ⟨_, -, rfl⟩ | ⟨-, ⟨_, -, rfl⟩ |
    ⟨-, _, -, rfl⟩⟩⟩⟩
  all_goals rfl

/-- On a bpf filesystem there is no second attempt. -/
theorem attachBlocklist_bpffs (pinning : settings.pinPath ≠ "")
    (bpffs : ∀ type, env.pinDir.statfs = .ok type → type = bpfFsMagic) (retry : Surroundings)
    (node : Node) :
    attachBlocklist settings env retry node = (attachWithOptions settings env node).2 := by
  have kind : ∀ err, (attachWithOptions settings env node).1 = .error err → err.kind = .other := by
    intro err failed
    rw [attachWithOptions] at failed
    split at failed
    · rename_i unprepared
      cases failed
      exact prepare_kind bpffs unprepared
    · rw [instantiate, if_neg pinning] at failed
      split at failed
      · rename_i outcome
        cases failed
        rw [Err.wrap_kind]
        exact newPinnedCollection_kind (congrArg Prod.fst outcome)
      · split at failed
        · rename_i wrong
          cases failed
          exact fault_kind wrong
        · cases failed
  rw [attachBlocklist]
  generalize attachWithOptions settings env node = outcome at *
  obtain ⟨result, after⟩ := outcome
  cases result with
  | ok => rfl
  | error err => exact if_neg (fun retries => by rw [kind err rfl] at retries; cases retries.2)

end Attach

section Run

variable {compatible : MapSpec → MapSpec → Prop} {object : CollectionSpec} {settings : Settings}
  {node : Node}

/-- The pins fit, and those of an attached process are its own. -/
structure Linked (compatible : MapSpec → MapSpec → Prop) (object : CollectionSpec) (node : Node) :
    Prop where
  fits : Fits compatible object node.kernel
  current : ∀ attached ∈ node.attached, attached.pinReset = false ∧
    ∀ map, node.kernel.pins map = some (attached.maps map)

theorem Linked.loader (linked : Linked compatible object node) {attached : Attached}
    (found : node.attached = some attached) :
    attached.loader node.kernel = node.kernel.restored object := by
  refine congrArg Loader.mk (funext fun map => ?_)
  rw [(linked.current attached found).2 map, Option.elim_some]

/-- What is there already is not touched by a load. -/
theorem Linked.load {spec : CollectionSpec} {load : Load} (linked : Linked compatible object node)
    (reflexive : ∀ spec, compatible spec spec) (laws : Loads compatible load)
    (marked : Marked object spec) :
    Linked compatible object { node with kernel := (load spec node.kernel).2 } where
  fits := laws.fits reflexive marked linked.fits
  current attached found := ⟨(linked.current attached found).1, fun map =>
    laws.pinned spec node.kernel map _ ((linked.current attached found).2 map)⟩

theorem attach_linked (reflexive : ∀ spec, compatible spec spec) (pinning : settings.pinPath ≠ "")
    (linked : Linked compatible object node) {env : Surroundings}
    (regular : Regular compatible object env) :
    Linked compatible object (attachWithOptions settings env node).2 ∧
      (attachWithOptions settings env node).2.kernel.restored object =
        node.kernel.restored object := by
  rw [attachWithOptions]
  split
  · exact ⟨linked, rfl⟩
  · rename_i spec prepared
    obtain ⟨⟨same, known, marked⟩, -⟩ := prepare_ok pinning prepared
    cases regular.unchanged same known
    have still := linked.load reflexive regular.loads marked
    have restored := regular.loads.restored marked node.kernel
    obtain ⟨once, made⟩ := newPinnedCollection_fits regular.loads marked linked.fits
    rw [instantiate, if_neg pinning]
    generalize newPinnedCollection env spec node.kernel = outcome at *
    obtain ⟨result, after⟩ := outcome
    dsimp only at once
    subst once
    cases result with
    | error err => exact ⟨still, restored⟩
    | ok loaded =>
        obtain ⟨coll, pinReset⟩ := loaded
        obtain ⟨loaded, rfl⟩ := made coll pinReset rfl
        dsimp only
        split
        · exact ⟨still, restored⟩
        · refine ⟨⟨still.fits, fun attached found => ?_⟩, restored⟩
          cases found
          refine ⟨rfl, fun map => ?_⟩
          obtain ⟨wanted, -, specified⟩ := marked map
          obtain ⟨id, has, pin⟩ :=
            regular.loads.shared spec node.kernel coll loaded map _ specified rfl
          dsimp only
          rw [pin, has, Option.getD_some]

theorem write_spec (kernel : Kernel) (maps : EnforcementMap → Nat) (after : Loader)
    (map : EnforcementMap) (id : Nat) :
    ((kernel.write maps after).maps map id).spec = (kernel.maps map id).spec := by
  dsimp only [Kernel.write]
  by_cases same : id = maps map
  · rw [same, Function.update_self]
  · rw [Function.update_of_ne same]

theorem loader_write (attached : Attached) (kernel : Kernel) (after : Loader) :
    attached.loader (kernel.write attached.maps after) = after := by
  refine congrArg Loader.mk (funext fun map => ?_)
  dsimp only [Kernel.write]
  rw [Function.update_self]

theorem call_linked {attached : Attached} {kernel : Kernel}
    (linked : Linked compatible object ⟨kernel, some attached⟩) (after : Loader) :
    Linked compatible object ⟨kernel.write attached.maps after, some attached⟩ where
  fits map wanted id known found := by
    rw [write_spec]
    exact linked.fits map wanted id known found
  current := linked.current

def RegularMove (compatible : MapSpec → MapSpec → Prop) (object : CollectionSpec) : Move → Prop
  | .attach env _ => Regular compatible object env
  | .call _ => True
  | .stop => True

/-- A move of the node is as many calls of a loader that never stops. -/
theorem next_linked (reflexive : ∀ spec, compatible spec spec) (pinning : settings.pinPath ≠ "")
    (linked : Linked compatible object node) {move : Move}
    (regular : RegularMove compatible object move) :
    Linked compatible object (node.next settings move) ∧
      (node.next settings move).kernel.restored object =
        runMoves performed (node.kernel.restored object) (issued (node, move)) := by
  cases move with
  | attach env retry =>
      have regular : Regular compatible object env := regular
      rw [Node.next, attachBlocklist_bpffs pinning regular.bpffs]
      exact attach_linked reflexive pinning linked regular
  | stop => exact ⟨⟨linked.fits, fun _ none => by cases none⟩, rfl⟩
  | call call =>
      obtain ⟨kernel, attached⟩ := node
      cases attached with
      | none => exact ⟨linked, rfl⟩
      | some attached =>
          have after := call_linked linked (performed (attached.loader kernel) call)
          refine ⟨after, ?_⟩
          have written := after.loader rfl
          rw [loader_write] at written
          rw [← linked.loader rfl]
          exact written.symm

/-- So is a whole run. -/
theorem run_linked (reflexive : ∀ spec, compatible spec spec) (pinning : settings.pinPath ≠ "")
    {start : Node} (linked : Linked compatible object start) (moves : List Move)
    (regular : ∀ move ∈ moves, RegularMove compatible object move) :
    Linked compatible object (runMoves (Node.next settings) start moves) ∧
      (runMoves (Node.next settings) start moves).kernel.restored object =
        runMoves performed (start.kernel.restored object)
          ((turns (Node.next settings) start moves).flatMap issued) := by
  induction moves using List.reverseRecOn with
  | nil => exact ⟨linked, rfl⟩
  | append_singleton moves last ih =>
      rw [List.forall_mem_append, List.forall_mem_singleton] at regular
      obtain ⟨before, same⟩ := ih regular.1
      have step := next_linked reflexive pinning before regular.2
      rw [same] at step
      rw [runMoves_concat, turns_concat, List.flatMap_append, List.flatMap_singleton]
      exact ⟨step.1, step.2.trans List.foldl_append.symm⟩

end Run

/-- However often the operator stops, crashes and fails to come up again, and however
attaches overlap: as long as the maps stay as they are and can be pinned, what is in
force is what all calls so far make of them, as if the operator had never stopped. -/
theorem drops_survive_restarts (compatible : MapSpec → MapSpec → Prop)
    (reflexive : ∀ spec, compatible spec spec) (settings : Settings)
    (pinning : settings.pinPath ≠ "") (object : CollectionSpec) {start : Node}
    (linked : Linked compatible object start) (moves : List Move)
    (regular : ∀ move ∈ moves, RegularMove compatible object move) :
    ∀ attached ∈ (runMoves (Node.next settings) start moves).attached,
      attached.pinReset = false ∧
      attached.loader (runMoves (Node.next settings) start moves).kernel =
        runMoves performed (start.kernel.restored object)
          ((turns (Node.next settings) start moves).flatMap issued) := by
  obtain ⟨after, same⟩ := run_linked reflexive pinning linked moves regular
  exact fun attached found => ⟨(after.current attached found).1, (after.loader found).trans same⟩

section Reference

/-- What the library compares. -/
def MapSpec.Compatible (wanted existing : MapSpec) : Prop :=
  wanted.mapType = existing.mapType ∧ wanted.keySize = existing.keySize ∧
    wanted.valueSize = existing.valueSize ∧ wanted.maxEntries = existing.maxEntries ∧
    wanted.flags = existing.flags

instance (wanted existing : MapSpec) : Decidable (wanted.Compatible existing) :=
  inferInstanceAs (Decidable (_ ∧ _))

def flagged (spec : CollectionSpec) (map : EnforcementMap) : Option MapSpec :=
  (spec map).filter fun wanted => wanted.pinning = .byName

def refuses (spec : CollectionSpec) (kernel : Kernel) : Bool :=
  pinnedMapNames.any fun map => (flagged spec map).any fun wanted =>
    (kernel.pins map).any fun id => ¬ wanted.Compatible (kernel.maps map id).spec

def Kernel.loaded (kernel : Kernel) (spec : CollectionSpec) : Kernel where
  maps map := (spec map).elim (kernel.maps map) fun wanted =>
    Function.update (kernel.maps map) (kernel.count map) wanted.created
  count map := kernel.count map + 1
  pins map := (kernel.pins map).or ((flagged spec map).map fun _ => kernel.count map)
  held map id pinned := by
    rcases Option.or_eq_some_iff.mp pinned with old | ⟨-, new⟩
    · have := kernel.held map id old
      omega
    · obtain ⟨wanted, -, rfl⟩ := Option.map_eq_some_iff.mp new
      omega

/-- A load that fails only where it refuses a pin. -/
def referenceLoad : Load := fun spec kernel =>
  if refuses spec kernel then
    (.error (.mapIncompatible "map spec was incompatible with existing map"), kernel)
  else
    (.ok fun map => (spec map).map fun wanted =>
      if wanted.pinning = .byName then (kernel.pins map).getD (kernel.count map)
      else kernel.count map, kernel.loaded spec)

theorem flagged_eq_some {spec : CollectionSpec} {map : EnforcementMap} {wanted : MapSpec} :
    flagged spec map = some wanted ↔ spec map = some wanted ∧ wanted.pinning = .byName := by
  rw [flagged, Option.filter_eq_some_iff, decide_eq_true_iff]

theorem loaded_maps_of_lt (spec : CollectionSpec) {kernel : Kernel} {map : EnforcementMap}
    {id : Nat} (inside : id < kernel.count map) :
    (kernel.loaded spec).maps map id = kernel.maps map id := by
  dsimp only [Kernel.loaded]
  cases spec map with
  | none => rfl
  | some wanted => exact Function.update_of_ne (by omega) ..

theorem referenceLoad_loads : Loads MapSpec.Compatible referenceLoad where
  kept spec kernel map id inside := by
    rw [referenceLoad]
    split
    · rfl
    · exact loaded_maps_of_lt spec inside
  pinned spec kernel map id found := by
    rw [referenceLoad]
    split
    · exact found
    · exact Option.or_eq_some_iff.mpr (.inl found)
  created spec kernel map id free found := by
    rw [referenceLoad] at found ⊢
    split at found
    · rw [free] at found
      cases found
    · rename_i accepted
      rcases Option.or_eq_some_iff.mp found with old | ⟨-, new⟩
      · rw [free] at old
        cases old
      · obtain ⟨wanted, want, rfl⟩ := Option.map_eq_some_iff.mp new
        obtain ⟨specified, named⟩ := flagged_eq_some.mp want
        refine ⟨wanted, specified, named, ?_⟩
        rw [if_neg accepted]
        dsimp only [Kernel.loaded]
        rw [specified, Option.elim_some, Function.update_self]
  shared spec kernel coll done map wanted specified named := by
    rw [referenceLoad] at done ⊢
    split at done
    · cases done
    · rename_i accepted
      cases done
      rw [if_neg accepted]
      dsimp only
      rw [specified, Option.map_some, if_pos named]
      refine ⟨_, rfl, ?_⟩
      dsimp only [Kernel.loaded]
      rw [flagged_eq_some.mpr ⟨specified, named⟩]
      cases kernel.pins map <;> rfl
  refused spec kernel text failed := by
    rw [referenceLoad] at failed
    split at failed
    · rename_i refusing
      simp only [refuses, List.any_eq_true, Option.any_eq_true, decide_eq_true_iff] at refusing
      obtain ⟨map, -, wanted, want, id, found, differs⟩ := refusing
      obtain ⟨specified, named⟩ := flagged_eq_some.mp want
      exact ⟨map, wanted, id, specified, named, found, differs⟩
    · cases failed

end Reference

def ofCapacity (entries : Nat) : CollectionSpec := fun map =>
  some ⟨1, map.keySize, 1, entries, 0, .none⟩

def defaults : Settings := ⟨"bpf/packet_filter.o", "eth0", "/sys/fs/bpf/sentinel5g"⟩

def smoothly : Surroundings where
  interface := none
  object := .ok (ofCapacity 16)
  pinDir := ⟨some "/sys/fs/bpf", .ok bpfFsMagic, none⟩
  first := referenceLoad
  remove _ := none
  second := referenceLoad
  exportsProgram := true
  exportsMap _ := true
  attachXDP := none
  bootTime := none

/-- The program cannot be attached. -/
def busy : Surroundings := { smoothly with attachXDP := some "device or resource busy" }

theorem smoothly_regular : Regular MapSpec.Compatible (ofCapacity 16) smoothly where
  unchanged _ same := (Except.ok.inj same).symm
  bpffs _ same := (Except.ok.inj same).symm
  loads := referenceLoad_loads

theorem busy_regular : Regular MapSpec.Compatible (ofCapacity 16) busy :=
  ⟨smoothly_regular.unchanged, smoothly_regular.bpffs, smoothly_regular.loads⟩

/-- No map has been created. -/
def blank : Node where
  kernel := ⟨fun _ _ => MapSpec.created ⟨0, 0, 0, 0, 0, .none⟩, fun _ => 0, fun _ => none,
    fun _ _ pinned => by cases pinned⟩
  attached := none

/-- A source is blocked, the process dies, and the second attach after it succeeds. -/
def crashed : List Move :=
  [.attach smoothly smoothly, .call (.block [10, 0, 0, 1]), .stop, .attach busy busy,
    .attach smoothly smoothly]

theorem blocked_source_survives_crash :
    ∃ attached ∈ (runMoves (Node.next defaults) blank crashed).attached,
      attached.pinReset = false ∧
      attached.loader (runMoves (Node.next defaults) blank crashed).kernel =
        performed (.empty fun _ => 16) (.block [10, 0, 0, 1]) := by
  have linked : Linked MapSpec.Compatible (ofCapacity 16) blank :=
    ⟨fun _ _ _ _ found => (by cases found), fun _ found => (by cases found)⟩
  have regular : ∀ move ∈ crashed, RegularMove MapSpec.Compatible (ofCapacity 16) move := by
    simp [crashed, RegularMove, smoothly_regular, busy_regular]
  have up : (runMoves (Node.next defaults) blank crashed).attached.isSome := by decide +kernel
  obtain ⟨attached, found⟩ := Option.isSome_iff_exists.mp up
  exact ⟨attached, found, drops_survive_restarts MapSpec.Compatible (by simp [MapSpec.Compatible])
    defaults (by decide) (ofCapacity 16) linked crashed regular attached found⟩

/-- Where an attach discards the pins and then fails, every drop is gone, and whatever
is attached later does not say so. -/
theorem failed_reset_is_not_reported (compatible : MapSpec → MapSpec → Prop)
    (reflexive : ∀ spec, compatible spec spec) (settings : Settings)
    (pinning : settings.pinPath ≠ "") (node : Node) (idle : node.attached = none)
    (env retry : Surroundings) (fresh : Loads compatible env.second) (object : CollectionSpec)
    (known : env.object = .ok object) (spec : CollectionSpec)
    (prepared : prepare settings env = .ok spec) (coll : Collection)
    (discards : (newPinnedCollection env spec node.kernel).1 = .ok (coll, true))
    (unfinished : fault settings env (newPinnedCollection env spec node.kernel).2 coll ≠ none)
    (moves : List Move) (regular : ∀ move ∈ moves, RegularMove compatible object move) :
    ∀ attached ∈ (runMoves (Node.next settings) (node.next settings (.attach env retry))
        moves).attached,
      attached.pinReset = false ∧
      attached.loader (runMoves (Node.next settings) (node.next settings (.attach env retry))
          moves).kernel =
        runMoves performed (.empty (capacity object))
          ((turns (Node.next settings) (node.next settings (.attach env retry)) moves).flatMap
            issued) := by
  obtain ⟨⟨same, loaded, marked⟩, bpffs⟩ := prepare_ok pinning prepared
  cases known.symm.trans loaded
  obtain ⟨bare, none, again⟩ := newPinnedCollection_reset discards
  have failed : node.next settings (.attach env retry) =
      ⟨(env.second spec bare).2, Option.none⟩ := by
    rw [Node.next, attachBlocklist_bpffs pinning bpffs, attachWithOptions, prepared]
    dsimp only
    rw [instantiate, if_neg pinning, ← again]
    generalize newPinnedCollection env spec node.kernel = outcome at *
    obtain ⟨result, after⟩ := outcome
    dsimp only at discards
    subst discards
    dsimp only
    obtain ⟨err, wrong⟩ := Option.ne_none_iff_exists'.mp unfinished
    rw [wrong, idle]
  have linked : Linked compatible object (node.next settings (.attach env retry)) := by
    rw [failed]
    refine ⟨fresh.fits reflexive marked fun map _ _ _ found => ?_, fun _ none => by cases none⟩
    rw [none map] at found
    cases found
  have emptied : (node.next settings (.attach env retry)).kernel.restored object =
      .empty (capacity object) := by
    rw [failed, fresh.restored marked]
    refine congrArg Loader.mk (funext fun map => ?_)
    rw [none map, Option.elim_none]
  obtain ⟨after, same⟩ := run_linked reflexive pinning linked moves regular
  rw [emptied] at same
  exact fun attached found => ⟨(after.current attached found).1, (after.loader found).trans same⟩

/-- Pins of an older object, with a source blocked. -/
def outdated : Node where
  kernel := ⟨fun map _ => ⟨⟨1, map.keySize, 1, 8, 0, .byName⟩,
      (performed (.empty fun _ => 8) (.block [10, 0, 0, 1])).maps map⟩,
    fun _ => 1, fun _ => some 0, fun _ _ pinned => by cases pinned; exact Nat.one_pos⟩
  attached := none

theorem outdated_drop_is_lost :
    ∃ attached ∈ (runMoves (Node.next defaults) (outdated.next defaults (.attach busy busy))
        [.attach smoothly smoothly]).attached,
      attached.pinReset = false ∧
      attached.loader (runMoves (Node.next defaults) (outdated.next defaults (.attach busy busy))
        [.attach smoothly smoothly]).kernel = .empty fun _ => 16 := by
  have regular : ∀ move ∈ [Move.attach smoothly smoothly],
      RegularMove MapSpec.Compatible (ofCapacity 16) move := by
    simp [RegularMove, smoothly_regular]
  have up : (runMoves (Node.next defaults) (outdated.next defaults (.attach busy busy))
      [.attach smoothly smoothly]).attached.isSome := by decide +kernel
  obtain ⟨attached, found⟩ := Option.isSome_iff_exists.mp up
  exact ⟨attached, found, failed_reset_is_not_reported MapSpec.Compatible
    (by simp [MapSpec.Compatible]) defaults (by decide) outdated rfl busy busy referenceLoad_loads
    (ofCapacity 16) rfl _ rfl _ rfl (by decide +kernel) [.attach smoothly smoothly] regular attached
    found⟩

end Sentinel5G.Ebpf.Pinning
