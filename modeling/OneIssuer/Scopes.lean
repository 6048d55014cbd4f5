import Mathlib.Data.List.Sort
import Mathlib.Data.List.Dedup
import Mathlib.Data.List.Sublists
import Mathlib.Data.String.Basic

/-!
# Scope algebra

The scope operations of the consent package, over arbitrary strings: `canonicalScopes` validates a
list and sorts it, and `union`, `intersection` and `difference` build their result as a set of
supported scopes that is sorted at the end. Go sorts strings by their bytes, which for UTF-8 is the
order of the code points.
-/

set_option autoImplicit false

namespace OneIssuer.Consent

/-- The scopes of the protocol. -/
def supported (scope : String) : Bool :=
  scope == "openid" || scope == "profile" || scope == "email" || scope == "offline_access"

/-- `sort.Strings`. -/
def sortStrings (values : List String) : List String := values.insertionSort (· ≤ ·)

/-- The keys of a Go set, sorted. -/
def sortedSet (values : List String) : List String := sortStrings values.dedup

/-- Membership by `sort.SearchStrings`: the first element not below the target is the target. -/
def contains (scopes : List String) (target : String) : Bool :=
  scopes.find? (fun scope => decide (target ≤ scope)) == some target

/-- No two neighbours are equal. -/
def noNeighboursEqual : List String → Bool
  | first :: second :: rest => first != second && noNeighboursEqual (second :: rest)
  | _ => true

/-- `CanonicalScopes`: the sorted scope set, or nothing when the list is not one. -/
def canonicalScopes (scopes : List String) : Option (List String) :=
  if scopes.length < 1 || scopes.length > 4 then none
  else if !scopes.all supported then none
  else
    let result := sortStrings scopes
    if !noNeighboursEqual result then none
    else if !contains result "openid" then none
    else some result

/-- `Union`. -/
def union (left right : List String) : List String :=
  sortedSet (left.filter supported ++ right.filter supported)

/-- `Intersection`. -/
def intersection (left right : List String) : List String :=
  sortedSet (left.filter fun scope => supported scope && right.contains scope)

/-- `Difference`. -/
def difference (left right : List String) : List String :=
  sortedSet (left.filter fun scope => supported scope && !right.contains scope)

/-- `scopeSubset` of the store and of the token package. -/
def scopeSubset (requested allowed : List String) : Bool :=
  requested.all fun scope => allowed.contains scope

/-! ## Membership -/

@[simp] theorem mem_sortStrings {scope : String} {values : List String} :
    scope ∈ sortStrings values ↔ scope ∈ values := List.mem_insertionSort _

@[simp] theorem mem_sortedSet {scope : String} {values : List String} :
    scope ∈ sortedSet values ↔ scope ∈ values := by
  simp [sortedSet]

theorem mem_union {scope : String} {left right : List String} :
    scope ∈ union left right ↔ supported scope ∧ (scope ∈ left ∨ scope ∈ right) := by
  simp only [union, mem_sortedSet, List.mem_append, List.mem_filter]
  tauto

theorem mem_intersection {scope : String} {left right : List String} :
    scope ∈ intersection left right ↔ scope ∈ left ∧ supported scope ∧ scope ∈ right := by
  simp [intersection]

theorem mem_difference {scope : String} {left right : List String} :
    scope ∈ difference left right ↔ scope ∈ left ∧ supported scope ∧ scope ∉ right := by
  simp [difference]

theorem scopeSubset_iff {requested allowed : List String} :
    scopeSubset requested allowed ↔ ∀ scope ∈ requested, scope ∈ allowed := by
  simp [scopeSubset]

/-- A difference is empty exactly when every supported element on the left is on the right. -/
theorem difference_eq_nil {left right : List String} :
    difference left right = [] ↔ ∀ scope ∈ left, supported scope → scope ∈ right := by
  rw [List.eq_nil_iff_forall_not_mem]
  constructor
  · intro empty scope member isSupported
    by_contra missing
    exact empty scope (mem_difference.mpr ⟨member, isSupported, missing⟩)
  · intro covered scope member
    obtain ⟨inLeft, isSupported, missing⟩ := mem_difference.mp member
    exact missing (covered scope inLeft isSupported)

/-! ## Sorted sets -/

theorem sortStrings_pairwise (values : List String) : (sortStrings values).Pairwise (· ≤ ·) :=
  List.pairwise_insertionSort _ _

theorem sortStrings_perm (values : List String) : (sortStrings values).Perm values :=
  List.perm_insertionSort _ _

theorem sortedSet_pairwise (values : List String) : (sortedSet values).Pairwise (· < ·) := by
  have distinct : (sortedSet values).Nodup :=
    (sortStrings_perm _).nodup_iff.mpr (List.nodup_dedup values)
  exact (sortStrings_pairwise _).imp₂ (fun _ _ le ne => lt_of_le_of_ne le ne) distinct

/-! ## Canonical scopes -/

/-- A canonical scope set has the elements it was made from, all of them supported. -/
theorem canonicalScopes_some {scopes result : List String}
    (canonical : canonicalScopes scopes = some result) :
    result = sortStrings scopes ∧ ∀ scope ∈ scopes, supported scope := by
  simp only [canonicalScopes] at canonical
  split at canonical
  · cases canonical
  · split at canonical
    · cases canonical
    · rename_i allSupported
      split at canonical
      · cases canonical
      · split at canonical
        · cases canonical
        · refine ⟨(Option.some.inj canonical).symm, ?_⟩
          simpa using allSupported

/-- Canonical scopes whose difference from an intersection is empty are in both its parts. -/
theorem covered_of_difference {scopes result left right : List String}
    (canonical : canonicalScopes scopes = some result)
    (empty : (difference result (intersection left right)).isEmpty) :
    ∀ scope ∈ result, scope ∈ left ∧ scope ∈ right := by
  intro scope member
  obtain ⟨rfl, allSupported⟩ := canonicalScopes_some canonical
  have covered := difference_eq_nil.mp (List.isEmpty_iff.mp empty) scope member
    (allSupported scope (mem_sortStrings.mp member))
  obtain ⟨inLeft, -, inRight⟩ := mem_intersection.mp covered
  exact ⟨inLeft, inRight⟩

/-! ## All scope sets -/

/-- The scopes of the protocol, sorted. -/
def supportedScopes : List String := ["email", "offline_access", "openid", "profile"]

theorem mem_supportedScopes {scope : String} : scope ∈ supportedScopes ↔ supported scope := by
  simp only [supportedScopes, supported, List.mem_cons, List.not_mem_nil, or_false, Bool.or_eq_true,
    beq_iff_eq]
  tauto

/-- A strictly sorted list of elements of a strictly sorted list is a sublist of it. -/
theorem mem_sublists_of_sorted {values scopes : List String} (ordered : values.Pairwise (· < ·))
    (sorted : scopes.Pairwise (· < ·)) (inside : ∀ scope ∈ scopes, scope ∈ values) :
    scopes ∈ values.sublists := by
  have kept : values.filter (· ∈ scopes) = scopes := by
    refine List.Perm.eq_of_pairwise ?_ (List.Pairwise.filter _ ordered) sorted ?_
    · intro a b _ _ less greater
      exact absurd less (lt_asymm greater)
    · refine (List.perm_ext_iff_of_nodup ?_ ?_).mpr fun scope => ?_
      · exact List.Nodup.filter _ (ordered.imp fun less => ne_of_lt less)
      · exact sorted.imp fun less => ne_of_lt less
      · simp only [List.mem_filter, decide_eq_true_eq, and_iff_right_iff_imp]
        exact inside scope
  rw [← kept]
  exact List.mem_sublists.mpr List.filter_sublist

/-- A strictly sorted list of supported scopes is one of sixteen. -/
theorem sublist_of_sorted {scopes : List String} (sorted : scopes.Pairwise (· < ·))
    (allSupported : ∀ scope ∈ scopes, supported scope) : scopes ∈ supportedScopes.sublists :=
  mem_sublists_of_sorted (by decide) sorted fun scope member =>
    mem_supportedScopes.mpr (allSupported scope member)

/-- A sorted set with `openid` is canonical. -/
theorem canonicalScopes_listed : ∀ scopes ∈ supportedScopes.sublists, "openid" ∈ scopes →
    canonicalScopes scopes = some scopes := by
  decide

/-- An intersection is a sorted set of supported scopes. -/
theorem intersection_listed (left right : List String) :
    intersection left right ∈ supportedScopes.sublists := by
  refine sublist_of_sorted (sortedSet_pairwise _) fun scope member => ?_
  exact (mem_intersection.mp member).2.1

/-- On a sorted list `contains` is membership. -/
theorem contains_iff_of_sorted {values : List String} (sorted : values.Pairwise (· ≤ ·))
    {target : String} : contains values target ↔ target ∈ values := by
  rw [contains, beq_iff_eq]
  constructor
  · exact List.mem_of_find?_eq_some
  · intro member
    induction sorted with
    | nil => cases member
    | @cons first rest least _ ih =>
      by_cases reached : target ≤ first
      · have same : first = target := by
          rcases List.mem_cons.mp member with rfl | later
          · rfl
          · exact le_antisymm (least target later) reached
        rw [List.find?_cons_of_pos (by simpa using reached), same]
      · have later : target ∈ rest := by
          rcases List.mem_cons.mp member with rfl | later
          · exact absurd le_rfl reached
          · exact later
        rw [List.find?_cons_of_neg (by simpa using reached)]
        exact ih later

theorem noNeighboursEqual_iff : ∀ {values : List String}, values.Pairwise (· ≤ ·) →
    (noNeighboursEqual values = true ↔ values.Nodup)
  | [], _ => by simp [noNeighboursEqual]
  | [_], _ => by simp [noNeighboursEqual]
  | first :: second :: rest, sorted => by
    obtain ⟨least, sortedRest⟩ := List.pairwise_cons.mp sorted
    rw [noNeighboursEqual, Bool.and_eq_true, bne_iff_ne, noNeighboursEqual_iff sortedRest,
      List.nodup_cons (a := first)]
    refine and_congr_left fun _ => ⟨fun differ member => ?_, fun absent same => ?_⟩
    · rcases List.mem_cons.mp member with same | later
      · exact differ same
      · have below := (List.pairwise_cons.mp sortedRest).1 first later
        exact differ (le_antisymm (least second List.mem_cons_self) below)
    · exact absent (same ▸ List.mem_cons_self)

/-- The lists `CanonicalScopes` accepts: sets of supported scopes with `openid`. -/
theorem canonicalScopes_iff {scopes result : List String} :
    canonicalScopes scopes = some result ↔
      (scopes.Nodup ∧ (∀ scope ∈ scopes, supported scope) ∧ "openid" ∈ scopes) ∧
        result = sortStrings scopes := by
  have distinct : noNeighboursEqual (sortStrings scopes) = true ↔ scopes.Nodup := by
    rw [noNeighboursEqual_iff (sortStrings_pairwise scopes), (sortStrings_perm scopes).nodup_iff]
  have hasOpenid : contains (sortStrings scopes) "openid" = true ↔ "openid" ∈ scopes := by
    rw [contains_iff_of_sorted (sortStrings_pairwise scopes), mem_sortStrings]
  have bounded : scopes.Nodup → (∀ scope ∈ scopes, supported scope) → "openid" ∈ scopes →
      scopes ≠ [] ∧ scopes.length ≤ 4 := by
    intro nodup allSupported member
    have inside : scopes ⊆ supportedScopes := fun scope inScopes =>
      mem_supportedScopes.mpr (allSupported scope inScopes)
    exact ⟨List.ne_nil_of_mem member, (nodup.subperm inside).length_le⟩
  constructor
  · intro canonical
    obtain ⟨isResult, allSupported⟩ := canonicalScopes_some canonical
    refine ⟨⟨?_, allSupported, ?_⟩, isResult⟩
    all_goals
      simp only [canonicalScopes] at canonical
      split at canonical
      · cases canonical
      · split at canonical
        · cases canonical
        · split at canonical
          · cases canonical
          · rename_i noRepeats
            split at canonical
            · cases canonical
            · rename_i openid
              first
              | exact distinct.mp (by simpa using noRepeats)
              | exact hasOpenid.mp (by simpa using openid)
  · rintro ⟨⟨nodup, allSupported, member⟩, rfl⟩
    have all : scopes.all supported = true := by simpa using allSupported
    simpa [canonicalScopes, all, distinct.mpr nodup, hasOpenid.mpr member] using
      bounded nodup allSupported member

end OneIssuer.Consent
