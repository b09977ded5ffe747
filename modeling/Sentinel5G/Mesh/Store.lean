import Sentinel5G.Api.Policy

namespace Sentinel5G.Mesh

open Base Api

inductive Kind
  | authorizationPolicy
  | ciliumNetworkPolicy
  | server
  deriving DecidableEq, Repr

def Kind.text : Kind → String
  | .authorizationPolicy => "AuthorizationPolicy"
  | .ciliumNetworkPolicy => "CiliumNetworkPolicy"
  | .server => "Server"

theorem Kind.text_inj {first second : Kind} (same : first.text = second.text) : first = second := by
  cases first <;> cases second <;> first | rfl | exact absurd same (by decide)

structure ObjectKey where
  kind : Kind
  ns : String
  name : String
  deriving DecidableEq, Repr

namespace ObjectKey

def cmp : ObjectKey → ObjectKey → Ordering :=
  compareLex (compareOn (fun key => key.kind.text))
    (compareLex (compareOn ObjectKey.ns) (compareOn ObjectKey.name))

instance : Std.TransCmp cmp :=
  inferInstanceAs (Std.TransCmp (compareLex (compareOn (fun key : ObjectKey => key.kind.text))
    (compareLex (compareOn ObjectKey.ns) (compareOn ObjectKey.name))))

instance : Std.LawfulEqCmp cmp where
  eq_of_compare := by
    intro first second same
    rw [cmp, compareLex_eq_eq, compareLex_eq_eq] at same
    simp only [compareOn, Std.LawfulEqCmp.compare_eq_iff_eq] at same
    obtain ⟨sameKind, sameNs, sameName⟩ := same
    cases first
    cases second
    simp only [ObjectKey.mk.injEq]
    exact ⟨Kind.text_inj sameKind, sameNs, sameName⟩

def text (key : ObjectKey) : String := key.kind.text ++ " " ++ key.ns ++ "/" ++ key.name

end ObjectKey

inductive ObjectSpec
  /-- `rules` counts the empty rules, each of which matches every request. -/
  | authorizationPolicy (matchLabels : Labels) (rules : Nat) (action : String)
  | ciliumNetworkPolicy (matchLabels : Labels) (fromEntities toEntities : List String)
  | server (matchLabels : Labels) (port : Int) (accessPolicy : String)
  deriving DecidableEq

structure Object where
  key : ObjectKey
  resourceVersion : Nat
  labels : Labels
  spec : ObjectSpec
  deriving DecidableEq

structure Store where
  revision : Nat
  objects : Std.ExtTreeMap ObjectKey Object ObjectKey.cmp
  keyed : ∀ (key : ObjectKey) (object : Object), objects[key]? = some object → object.key = key

namespace Store

def empty : Store := ⟨0, ∅, by simp⟩

def objectErr (kind : ErrKind) (key : ObjectKey) (what : String) : Err :=
  ⟨kind, key.kind.text ++ " " ++ quoted key.name ++ " " ++ what⟩

def get (store : Store) (key : ObjectKey) : Except Err Object :=
  match store.objects[key]? with
  | some object => .ok object
  | none => .error (objectErr .notFound key "not found")

def put (store : Store) (object : Object) : Store where
  revision := store.revision + 1
  objects := store.objects.insert object.key { object with resourceVersion := store.revision + 1 }
  keyed := by
    intro key other found
    simp only [Std.ExtTreeMap.getElem?_insert, Std.LawfulEqCmp.compare_eq_iff_eq] at found
    split at found
    · rename_i same
      cases found
      exact same
    · exact store.keyed key other found

def create (store : Store) (object : Object) : Except Err Unit × Store :=
  if object.key ∈ store.objects then
    (.error (objectErr .other object.key "already exists"), store)
  else (.ok (), store.put object)

def update (store : Store) (object : Object) : Except Err Unit × Store :=
  match store.objects[object.key]? with
  | none => (.error (objectErr .notFound object.key "not found"), store)
  | some existing =>
      if object.resourceVersion ≠ existing.resourceVersion then
        (.error (objectErr .conflict object.key "has been modified"), store)
      else (.ok (), store.put object)

def drop (store : Store) (key : ObjectKey) : Store where
  revision := store.revision + 1
  objects := store.objects.erase key
  keyed := by
    intro other object found
    rw [Std.ExtTreeMap.getElem?_erase] at found
    split at found
    · cases found
    · exact store.keyed other object found

def delete (store : Store) (key : ObjectKey) : Except Err Unit × Store :=
  if key ∈ store.objects then (.ok (), store.drop key)
  else (.error (objectErr .notFound key "not found"), store)

def list (store : Store) (kind : Kind) (ns labelKey labelValue : String) : List Object :=
  (store.objects.toList.map Prod.snd).filter (fun object =>
    decide (object.key.kind = kind ∧ object.key.ns = ns ∧
      object.labels[labelKey]? = some labelValue))

end Store

end Sentinel5G.Mesh
