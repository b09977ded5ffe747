import Sentinel5G.Controller.BlocklistReconciler
import Sentinel5G.Controller.Frame

/-! The canonical keys of the reconciler: what the policies' status asks for and
what the kernel read shows are both tables with one key for each drop. -/

namespace Sentinel5G.Controller

open Base Api Ebpf Program

section Keyed

variable {α V : Type} {entry : α → Option (String × V)} {found : Keyed V} {key : String} {value : V}

theorem mem_keep {item : α} :
    key ∈ keep entry found item ↔ (∃ value, entry item = some (key, value)) ∨ key ∈ found := by
  rw [keep]
  cases entry item with
  | none => simp
  | some pair =>
      rw [Std.ExtTreeMap.mem_insert, Std.LawfulEqCmp.compare_eq_iff_eq]
      simp [Prod.ext_iff]

theorem entry_of_keep {item : α} (stored : (keep entry found item)[key]? = some value) :
    entry item = some (key, value) ∨ found[key]? = some value := by
  rw [keep] at stored
  split at stored
  · exact .inr stored
  · rename_i other written same
    simp only [Std.ExtTreeMap.getElem?_insert, Std.LawfulEqCmp.compare_eq_iff_eq] at stored
    split at stored
    · rename_i equal
      subst equal
      cases stored
      exact .inl same
    · exact .inr stored

theorem mem_foldl_keep {items : List α} :
    key ∈ items.foldl (keep entry) found ↔
      (∃ item ∈ items, ∃ value, entry item = some (key, value)) ∨ key ∈ found := by
  induction items generalizing found with
  | nil => simp
  | cons item items ih =>
      rw [List.foldl_cons, ih, mem_keep]
      simp only [List.mem_cons, exists_eq_or_imp, or_assoc]
      exact or_left_comm

theorem mem_keyedBy {items : List α} :
    key ∈ keyedBy entry items ↔ ∃ item ∈ items, ∃ value, entry item = some (key, value) := by
  rw [keyedBy, mem_foldl_keep]
  simp

theorem entry_of_foldl_keep {items : List α}
    (stored : (items.foldl (keep entry) found)[key]? = some value) :
    (∃ item ∈ items, entry item = some (key, value)) ∨ found[key]? = some value := by
  induction items generalizing found with
  | nil => exact .inr stored
  | cons item items ih =>
      rcases ih stored with ⟨other, member, same⟩ | earlier
      · exact .inl ⟨other, List.mem_cons_of_mem _ member, same⟩
      · rcases entry_of_keep earlier with same | before
        · exact .inl ⟨item, List.mem_cons_self, same⟩
        · exact .inr before

theorem entry_of_keyedBy {items : List α} (stored : (keyedBy entry items)[key]? = some value) :
    ∃ item ∈ items, entry item = some (key, value) := by
  rcases entry_of_foldl_keep stored with listed | empty
  · exact listed
  · simp at empty

end Keyed

def mark : Drop → String
  | .source address => "ip:" ++ address.text
  | .tunnel address teid => "tunnel:" ++ formatTunnel address.text teid

theorem formatTunnel_inj {first second : Address} {teid other : UInt32}
    (same : formatTunnel first.text teid = formatTunnel second.text other) :
    first = second ∧ teid = other := by
  have left := parseTunnel_formatTunnel _ _ teid (parseIP_text first)
  have right := parseTunnel_formatTunnel _ _ other (parseIP_text second)
  rw [same, right] at left
  obtain ⟨address, rfl⟩ := Prod.mk.inj (Except.ok.inj left)
  exact ⟨Subtype.ext address.symm, rfl⟩

theorem mark_inj {first second : Drop} (same : mark first = mark second) : first = second := by
  cases first with
  | source address =>
      cases second with
      | source other => rw [Address.text_inj (String.append_right_inj _ |>.mp same)]
      | tunnel other teid =>
          have heads := congrArg (fun text : String => text.toList.head?) same
          simp [mark] at heads
  | tunnel address teid =>
      cases second with
      | source other =>
          have heads := congrArg (fun text : String => text.toList.head?) same
          simp [mark] at heads
      | tunnel other otherTeid =>
          obtain ⟨rfl, rfl⟩ := formatTunnel_inj (String.append_right_inj _ |>.mp same)
          rfl

def sourceKey : Drop → Option String
  | .source address => some address.text
  | .tunnel _ _ => none

def tunnelKey : Drop → Option String
  | .source _ => none
  | .tunnel address teid => some (formatTunnel address.text teid)

/-- The family's keys are the drops' marks without the space in front, and it
lifts a value by the drop it places it by. -/
structure Represents {V : Type} (family : Family V) (keyOf : Drop → Option String) : Prop where
  marked : ∀ {drop key}, keyOf drop = some key → mark drop = family.space ++ key
  lifts : ∀ {value drop}, (family.place value).Places drop → (family.lift value).Lifts drop

theorem ipFamily_represents : Represents ipFamily sourceKey where
  marked := by
    intro drop key named
    cases drop with
    | source address => exact congrArg ("ip:" ++ ·) (Option.some.inj named)
    | tunnel address teid => cases named
  lifts := id

theorem tunnelFamily_represents : Represents tunnelFamily tunnelKey where
  marked := by
    intro drop key named
    cases drop with
    | source address => cases named
    | tunnel address teid => exact congrArg ("tunnel:" ++ ·) (Option.some.inj named)
  lifts := id

/-- The table has exactly the family's keys of `members`, each with a value that
names its drop. -/
structure Lists {V : Type} (family : Family V) (keyOf : Drop → Option String) (table : Keyed V)
    (members : Drop → Prop) : Prop where
  sound : ∀ key value, table[key]? = some value →
    ∃ drop, keyOf drop = some key ∧ (family.place value).Places drop ∧ members drop
  complete : ∀ drop key, keyOf drop = some key → members drop → key ∈ table

section Lists

variable {V : Type} {family : Family V} {keyOf : Drop → Option String} {table : Keyed V}
  {members : Drop → Prop}

theorem Represents.keyOf_inj (represents : Represents family keyOf) {first second : Drop}
    {key : String} (one : keyOf first = some key) (other : keyOf second = some key) :
    first = second :=
  mark_inj ((represents.marked one).trans (represents.marked other).symm)

theorem Lists.mem_iff (lists : Lists family keyOf table members)
    (represents : Represents family keyOf) {drop : Drop} {key : String}
    (named : keyOf drop = some key) : key ∈ table ↔ members drop := by
  constructor
  · intro member
    obtain ⟨value, stored⟩ := Option.isSome_iff_exists.mp
      (Std.ExtTreeMap.mem_iff_isSome_getElem?.mp member)
    obtain ⟨listed, same, -, holds⟩ := lists.sound key value stored
    rwa [represents.keyOf_inj named same]
  · exact lists.complete drop key named

theorem Lists.congr {others : Drop → Prop} (lists : Lists family keyOf table members)
    (agree : ∀ drop, (keyOf drop).isSome → (members drop ↔ others drop)) :
    Lists family keyOf table others where
  sound := by
    intro key value stored
    obtain ⟨drop, named, places, member⟩ := lists.sound key value stored
    exact ⟨drop, named, places, (agree drop (by rw [named]; rfl)).mp member⟩
  complete := by
    intro drop key named other
    exact lists.complete drop key named ((agree drop (by rw [named]; rfl)).mpr other)

theorem Lists.names (lists : Lists family keyOf table members) {pair : String × V}
    (member : pair ∈ table.toList) :
    ∃ drop, keyOf drop = some pair.1 ∧ (family.place pair.2).Places drop ∧ members drop :=
  lists.sound pair.1 pair.2 (Std.ExtTreeMap.mem_toList_iff_getElem?_eq_some.mp member)

theorem Lists.mem_toList (lists : Lists family keyOf table members) {drop : Drop} {key : String}
    (named : keyOf drop = some key) (holds : members drop) :
    ∃ value, (key, value) ∈ table.toList := by
  obtain ⟨value, stored⟩ := Option.isSome_iff_exists.mp
    (Std.ExtTreeMap.mem_iff_isSome_getElem?.mp (lists.complete drop key named holds))
  exact ⟨value, Std.ExtTreeMap.mem_toList_iff_getElem?_eq_some.mpr stored⟩

end Lists

def Claimed (policies : List TelecomSecurityPolicy) (drop : Drop) : Prop :=
  ∃ policy ∈ policies, policy.deletionTimestamp.isNone ∧ Claims policy.status drop

def Desired (policies : List TelecomSecurityPolicy) (drop : Drop) : Prop :=
  Claimed policies drop ∧ ∀ address, drop ≠ .tunnel address 0

theorem claimed_source_iff {policies : List TelecomSecurityPolicy} {address : Address} :
    Claimed policies (.source address) ↔
      ∃ raw ∈ (policies.filter (fun policy => policy.deletionTimestamp.isNone)).flatMap
        (fun policy => policy.status.blockedSourceIPs), parseIP raw = some address.val := by
  simp only [Claimed, claims_source_iff, List.mem_flatMap, List.mem_filter]
  constructor
  · rintro ⟨policy, listed, live, raw, member, parsed⟩
    exact ⟨raw, ⟨policy, ⟨listed, live⟩, member⟩, parsed⟩
  · rintro ⟨raw, ⟨policy, ⟨listed, live⟩, member⟩, parsed⟩
    exact ⟨policy, listed, live, raw, member, parsed⟩

theorem claimed_tunnel_iff {policies : List TelecomSecurityPolicy} {address : Address}
    {teid : UInt32} :
    Claimed policies (.tunnel address teid) ↔
      ∃ entry ∈ (policies.filter (fun policy => policy.deletionTimestamp.isNone)).flatMap
        (fun policy => policy.status.blockedTunnels),
          parseTunnel entry = .ok (address.val, teid) := by
  simp only [Claimed, claims_tunnel_iff, List.mem_flatMap, List.mem_filter]
  constructor
  · rintro ⟨policy, listed, live, entry, member, parsed⟩
    exact ⟨entry, ⟨policy, ⟨listed, live⟩, member⟩, parsed⟩
  · rintro ⟨entry, ⟨policy, ⟨listed, live⟩, member⟩, parsed⟩
    exact ⟨policy, listed, live, entry, member, parsed⟩

theorem desiredIP_eq {raw : String} {address : Address} (parsed : parseIP raw = some address.val) :
    desiredIP raw = some (address.text, address.val) := by
  rw [desiredIP, parsed]
  rfl

theorem desiredTunnel_eq {entry : String} {address : Address} {teid : UInt32}
    (parsed : parseTunnel entry = .ok (address.val, teid)) (nonzero : teid ≠ 0) :
    desiredTunnel entry = some (formatTunnel address.text teid, ⟨address.val, teid⟩) := by
  rw [desiredTunnel, parsed]
  simp only [nonzero, if_false]
  rfl

theorem desiredIPs_lists (policies : List TelecomSecurityPolicy) :
    Lists ipFamily sourceKey (desiredEnforcement policies).1 (Desired policies) where
  sound := by
    intro key ip stored
    obtain ⟨raw, member, same⟩ := entry_of_keyedBy stored
    rw [desiredIP] at same
    split at same
    · cases same
    · rename_i parsed
      cases same
      have length := parseIP_length raw _ parsed
      refine ⟨.source ⟨ip, length⟩, rfl, ⟨⟨ip, length⟩, to16_eq_self _ length, rfl⟩, ?_, by simp⟩
      exact claimed_source_iff.mpr ⟨raw, member, parsed⟩
  complete := by
    intro drop key named desired
    cases drop with
    | source address =>
        cases named
        obtain ⟨raw, member, parsed⟩ := claimed_source_iff.mp desired.1
        exact mem_keyedBy.mpr ⟨raw, member, _, desiredIP_eq parsed⟩
    | tunnel address teid => cases named

theorem desiredTunnels_lists (policies : List TelecomSecurityPolicy) :
    Lists tunnelFamily tunnelKey (desiredEnforcement policies).2 (Desired policies) where
  sound := by
    intro key tunnel stored
    obtain ⟨entry, member, same⟩ := entry_of_keyedBy stored
    rw [desiredTunnel] at same
    split at same
    · cases same
    · rename_i ip teid parsed
      split at same
      · cases same
      · rename_i nonzero
        cases same
        have length := parseTunnel_length entry _ _ parsed
        refine ⟨.tunnel ⟨ip, length⟩ teid, rfl,
          ⟨⟨ip, length⟩, to16_eq_self _ length, nonzero, rfl⟩, ?_, by simp [nonzero]⟩
        exact claimed_tunnel_iff.mpr ⟨entry, member, parsed⟩
  complete := by
    intro drop key named desired
    cases drop with
    | source address => cases named
    | tunnel address teid =>
        cases named
        obtain ⟨entry, member, parsed⟩ := claimed_tunnel_iff.mp desired.1
        have nonzero : teid ≠ 0 := fun zero => desired.2 address (zero ▸ rfl)
        exact mem_keyedBy.mpr ⟨entry, member, _, desiredTunnel_eq parsed nonzero⟩

theorem actualIPs_lists {loader : Loader} (canonical : loader.Canonical) :
    Lists ipFamily sourceKey (keyedBy actualIP loader.blockedIPs) loader.Holds where
  sound := by
    intro key ip stored
    obtain ⟨shown, member, same⟩ := entry_of_keyedBy stored
    cases same
    obtain ⟨address, long, held⟩ := Loader.mem_blockedIPs canonical ip member
    exact ⟨.source address, congrArg some (string_eq_text ip address long).symm,
      ⟨address, long, rfl⟩, held⟩
  complete := by
    intro drop key named held
    cases drop with
    | source address =>
        cases named
        obtain ⟨ip, member, long⟩ := Loader.blockedIPs_of_holds address held
        refine mem_keyedBy.mpr ⟨ip, member, ip, ?_⟩
        rw [actualIP, string_eq_text ip address long]
    | tunnel address teid => cases named

theorem actualTunnels_lists {loader : Loader} (canonical : loader.Canonical) :
    Lists tunnelFamily tunnelKey (keyedBy actualTunnel loader.blockedTunnels) loader.Holds where
  sound := by
    intro key tunnel stored
    obtain ⟨shown, member, same⟩ := entry_of_keyedBy stored
    cases same
    obtain ⟨address, long, nonzero, held⟩ := Loader.mem_blockedTunnels canonical tunnel member
    refine ⟨.tunnel address tunnel.teid, ?_, ⟨address, long, nonzero, rfl⟩, held⟩
    rw [tunnelKey, string_eq_text tunnel.ip address long]
  complete := by
    intro drop key named held
    cases drop with
    | source address => cases named
    | tunnel address teid =>
        cases named
        obtain ⟨tunnel, member, long, same⟩ := Loader.blockedTunnels_of_holds address teid held
        refine mem_keyedBy.mpr ⟨tunnel, member, tunnel, ?_⟩
        rw [actualTunnel, string_eq_text tunnel.ip address long, same]

end Sentinel5G.Controller
