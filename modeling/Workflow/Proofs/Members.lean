import Workflow.Proofs.Fields

/-!
# Members of objects

An object whose keys increase is determined by what its keys look up, so two such objects are the
same when all lookups agree. Writing members over others, and writing the fields of a record that
are set, both keep the keys increasing; what a key looks up afterwards is told by the last place
that it was written at.
-/

namespace Workflow

namespace Json

/-! ## Equality by lookup -/

theorem lookup_eq_none {key : String} {members : List (String × Json)}
    (absent : ∀ member ∈ members, member.1 ≠ key) : lookup key members = none := by
  by_contra present
  rcases Option.ne_none_iff_exists'.mp present with ⟨value, found⟩
  exact absent (key, value) (mem_of_lookup found) rfl

theorem lookup_of_mem {members : List (String × Json)} (sorted : SortedKeys members)
    {key : String} {value : Json} (present : (key, value) ∈ members) :
    lookup key members = some value := by
  induction members with
  | nil => simp at present
  | cons head rest ih =>
      rcases head with ⟨name, first⟩
      rcases List.pairwise_cons.mp sorted with ⟨before, restSorted⟩
      rcases List.mem_cons.mp present with here | there
      · simp only [Prod.mk.injEq] at here
        simp [lookup, here]
      · have different : name ≠ key := String.ne_of_lt (before _ there)
        simpa [lookup, different] using ih restSorted there

/-- Objects with increasing keys are the same when every key looks up the same. -/
theorem ext_of_lookup {left right : List (String × Json)} (leftSorted : SortedKeys left)
    (rightSorted : SortedKeys right) (same : ∀ key, lookup key left = lookup key right) :
    left = right := by
  have mem_iff : ∀ member, member ∈ left ↔ member ∈ right := by
    intro member
    constructor
    · intro present
      apply mem_of_lookup
      rw [← same]
      exact lookup_of_mem leftSorted present
    · intro present
      apply mem_of_lookup
      rw [same]
      exact lookup_of_mem rightSorted present
  have nodup : ∀ {members : List (String × Json)}, SortedKeys members → members.Nodup := by
    intro members sorted
    refine sorted.imp ?_
    rintro first second before rfl
    exact String.lt_irrefl _ before
  have perm : left.Perm right :=
    (List.perm_ext_iff_of_nodup (nodup leftSorted) (nodup rightSorted)).mpr mem_iff
  refine perm.eq_of_pairwise ?_ leftSorted rightSorted
  intro first second _ _ before after
  exact absurd after (String.lt_asymm before)

theorem SortedKeys.nodup {members : List (String × Json)} (sorted : SortedKeys members) :
    (members.map Prod.fst).Nodup := by
  rw [List.Nodup, List.pairwise_map]
  exact sorted.imp fun before => String.ne_of_lt before

/-! ## Writing over -/

@[simp]
theorem overlay_nil (base : List (String × Json)) : overlay base [] = base := rfl

@[simp]
theorem overlay_cons (base : List (String × Json)) (key : String) (value : Json)
    (extra : List (String × Json)) :
    overlay base ((key, value) :: extra) = overlay (insert key value base) extra := rfl

theorem sortedKeys_overlay {base : List (String × Json)} (sorted : SortedKeys base)
    (extra : List (String × Json)) : SortedKeys (overlay base extra) := by
  induction extra generalizing base with
  | nil => exact sorted
  | cons member rest ih => exact ih (sortedKeys_insert sorted _ _)

theorem lookup_overlay {extra : List (String × Json)} (nodup : (extra.map Prod.fst).Nodup)
    (base : List (String × Json)) (key : String) :
    lookup key (overlay base extra) = (lookup key extra).or (lookup key base) := by
  induction extra generalizing base with
  | nil => simp
  | cons member rest ih =>
      rcases member with ⟨name, value⟩
      rcases List.nodup_cons.mp nodup with ⟨fresh, restNodup⟩
      rw [overlay_cons, ih restNodup]
      by_cases same : name = key
      · subst same
        have absent : lookup name rest = none := by
          apply lookup_eq_none
          intro member isMember equal
          exact fresh (List.mem_map.mpr ⟨member, isMember, equal⟩)
        simp [absent, lookup, lookup_insert_self]
      · simp [lookup, same, lookup_insert_of_ne (Ne.symm same)]

/-- Members in key order, written one by one, are themselves. -/
theorem overlay_of_sorted {members : List (String × Json)} (sorted : SortedKeys members) :
    overlay [] members = members := by
  apply ext_of_lookup (sortedKeys_overlay .nil members) sorted
  intro key
  rw [lookup_overlay sorted.nodup, lookup_nil, Option.or_none]

/-- Keys that are dropped may be written or not. -/
theorem filter_insert_of_dropped {keep : String → Bool} {key : String}
    (dropped : keep key = false) (value : Json) (members : List (String × Json)) :
    (insert key value members).filter (fun member => keep member.1) =
      members.filter fun member => keep member.1 := by
  induction members with
  | nil => simp [insert, dropped]
  | cons head rest ih =>
      rcases head with ⟨name, old⟩
      by_cases same : key = name
      · subst same
        simp [insert, dropped]
      · by_cases before : key < name
        · simp [insert, same, before, dropped]
        · simp [insert, same, before, List.filter_cons, ih]

theorem filter_overlay_of_dropped (keep : String → Bool) {extra : List (String × Json)}
    (dropped : ∀ member ∈ extra, keep member.1 = false) (base : List (String × Json)) :
    (overlay base extra).filter (fun member => keep member.1) =
      base.filter fun member => keep member.1 := by
  induction extra generalizing base with
  | nil => rfl
  | cons member rest ih =>
      rcases List.forall_mem_cons.mp dropped with ⟨first, others⟩
      rw [overlay_cons, ih others]
      exact filter_insert_of_dropped first _ base

end Json

/-! ## Fields that are set -/

namespace Record

def settled (written : List (String × Option Json)) : Fields :=
  written.filterMap fun (name, value) => value.map fun value => (name, value)

theorem object_eq (written : List (String × Option Json)) :
    object written = .object (Json.overlay [] (settled written)) := rfl

theorem settled_nodup {written : List (String × Option Json)}
    (nodup : (written.map Prod.fst).Nodup) : ((settled written).map Prod.fst).Nodup := by
  refine nodup.sublist ?_
  induction written with
  | nil => exact List.Sublist.slnil
  | cons field rest ih =>
      rcases field with ⟨name, value⟩
      have below := ih (List.nodup_cons.mp nodup).2
      cases value with
      | none => simpa [settled] using below.cons name
      | some value => simpa [settled] using below.cons_cons name

theorem lookup_settled {written : List (String × Option Json)}
    (nodup : (written.map Prod.fst).Nodup) (key : String) :
    Json.lookup key (settled written) = (written.lookup key).join := by
  induction written with
  | nil => rfl
  | cons field rest ih =>
      rcases field with ⟨name, value⟩
      rcases List.nodup_cons.mp nodup with ⟨fresh, restNodup⟩
      have below := ih restNodup
      by_cases same : name = key
      · subst same
        cases value with
        | some value => simp [settled, Json.lookup]
        | none =>
            have absent : rest.lookup name = none := by
              rw [List.lookup_eq_none_iff]
              intro field isField
              have different : field.1 ≠ name := by
                intro equal
                exact fresh (List.mem_map.mpr ⟨field, isField, equal⟩)
              simpa using Ne.symm different
            simpa [settled, absent] using below
      · have different : (key == name) = false := by simpa using Ne.symm same
        cases value with
        | some value => simpa [settled, Json.lookup, same, List.lookup_cons, different] using below
        | none => simpa [settled, List.lookup_cons, different] using below

/-- The members of an object that a record is written as. -/
theorem lookup_object {written : List (String × Option Json)}
    (nodup : (written.map Prod.fst).Nodup) (key : String) :
    Json.lookup key (Json.overlay [] (settled written)) = (written.lookup key).join := by
  rw [Json.lookup_overlay (settled_nodup nodup), lookup_settled nodup]
  simp

theorem sortedKeys_object (written : List (String × Option Json)) :
    Json.SortedKeys (Json.overlay [] (settled written)) :=
  Json.sortedKeys_overlay List.Pairwise.nil _

end Record

end Workflow
