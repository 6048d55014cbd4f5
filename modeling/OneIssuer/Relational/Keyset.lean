import Mathlib.Data.List.Sort
import Mathlib.Data.Prod.Lex

/-!
# Keyset pages

A list that is read page by page: the rows stand in descending order of a key, a page is the first
rows below a mark, and a reader follows the marks that the pages hand out until a page hands out
none. What a mark selects is always an end of the whole list (`below_suffix`), so two selections that
start with the same row are the same (`suffix_eq`).
-/

set_option autoImplicit false

namespace Relational

section Order

variable {ρ κ : Type} [LinearOrder κ] (key : ρ → κ)

/-- Rows in descending order of their keys. -/
def descending (rows : List ρ) : List ρ := rows.insertionSort fun a b => key b ≤ key a

/-- The rows whose key is below the mark; without a mark, all rows. -/
def belowMark (mark : Option κ) (rows : List ρ) : List ρ :=
  rows.filter fun row => mark.all fun bound => decide (key row < bound)

/-- One page: the first rows below the mark, in descending order. -/
def keysetPage (rows : List ρ) (mark : Option κ) (count : Nat) : List ρ :=
  (descending key (belowMark key mark rows)).take count

variable {key} {rows : List ρ}

theorem descending_perm : (descending key rows).Perm rows := List.perm_insertionSort _ _

theorem descending_pairwise : (descending key rows).Pairwise fun a b => key b ≤ key a := by
  have total : Std.Total fun a b : ρ => key b ≤ key a := ⟨fun a b => le_total (key b) (key a)⟩
  have transitive : IsTrans ρ fun a b => key b ≤ key a := ⟨fun _ _ _ ab bc => bc.trans ab⟩
  exact List.pairwise_insertionSort _ _

/-- With distinct keys the order is strict. -/
theorem descending_strict (distinct : (rows.map key).Nodup) :
    (descending key rows).Pairwise fun a b => key b < key a := by
  have nodup : ((descending key rows).map key).Nodup :=
    (descending_perm.map key).nodup_iff.mpr distinct
  exact descending_pairwise.imp₂ (fun _ _ le ne => lt_of_le_of_ne le (Ne.symm ne))
    (List.pairwise_map.mp nodup)

/-- A page can be cut from the ordered list. -/
theorem descending_belowMark (distinct : (rows.map key).Nodup) (mark : Option κ) :
    descending key (belowMark key mark rows) = belowMark key mark (descending key rows) := by
  refine List.Perm.eq_of_pairwise ?_ descending_pairwise (descending_pairwise.filter _) ?_
  · intro a b inA inB ba ab
    have inRows : a ∈ rows := (List.mem_filter.mp (descending_perm.mem_iff.mp inA)).1
    have inRows' : b ∈ rows := descending_perm.mem_iff.mp (List.mem_filter.mp inB).1
    exact List.inj_on_of_nodup_map distinct inRows inRows' (le_antisymm ab ba)
  · exact descending_perm.trans (descending_perm.symm.filter _)

/-- Rows may be rewritten after the page is cut, when that keeps their keys. -/
theorem keysetPage_map {σ : Type} {rewrite : ρ → σ} {newKey : σ → κ}
    (same : ∀ row, newKey (rewrite row) = key row) (mark : Option κ) (count : Nat) :
    (keysetPage key rows mark count).map rewrite = keysetPage newKey (rows.map rewrite) mark count := by
  have selected : (belowMark key mark rows).map rewrite = belowMark newKey mark (rows.map rewrite) := by
    simp only [belowMark, List.filter_map, Function.comp_def, same]
  have sorted : (descending key (belowMark key mark rows)).map rewrite =
      descending newKey (belowMark newKey mark (rows.map rewrite)) := by
    rw [← selected]
    exact List.map_insertionSort _ _ _ _ fun a _ b _ => by rw [same, same]
  rw [keysetPage, List.map_take, sorted, keysetPage]

end Order

section Suffixes

variable {ρ κ : Type} [LinearOrder κ] {key : ρ → κ} {sorted : List ρ}

/-- What a mark selects of an ordered list is an end of it. -/
theorem below_suffix (ordered : sorted.Pairwise fun a b => key b < key a) (mark : Option κ) :
    belowMark key mark sorted <:+ sorted := by
  induction sorted with
  | nil => exact List.suffix_rfl
  | cons first rest ih =>
    obtain ⟨above, ordered⟩ := List.pairwise_cons.mp ordered
    by_cases selected : mark.all fun bound => decide (key first < bound)
    · -- everything after a selected row is selected
      have all : belowMark key mark (first :: rest) = first :: rest := by
        refine List.filter_eq_self.mpr fun row member => ?_
        cases mark with
        | none => rfl
        | some bound =>
          simp only [Option.all_some, decide_eq_true_eq] at selected ⊢
          rcases List.mem_cons.mp member with rfl | inRest
          · exact selected
          · exact (above row inRest).trans selected
      exact all.symm ▸ List.suffix_rfl
    · have skipped : belowMark key mark (first :: rest) = belowMark key mark rest :=
        List.filter_cons_of_neg selected
      rw [skipped]
      exact (ih ordered).trans (List.suffix_cons first rest)

/-- The key of a row, as a mark, selects what comes after the row. -/
theorem below_row {front back : List ρ} {row : ρ}
    (ordered : (front ++ row :: back).Pairwise fun a b => key b < key a) :
    belowMark key (some (key row)) (front ++ row :: back) = back := by
  obtain ⟨-, rest, above⟩ := List.pairwise_append.mp ordered
  obtain ⟨below, -⟩ := List.pairwise_cons.mp rest
  have none : belowMark key (some (key row)) front = [] := by
    refine List.filter_eq_nil_iff.mpr fun a member => ?_
    simpa using (above a member row List.mem_cons_self).le
  have all : belowMark key (some (key row)) back = back := by
    refine List.filter_eq_self.mpr fun a member => ?_
    simpa using below a member
  rw [belowMark, List.filter_append, List.filter_cons_of_neg (by simp)]
  exact (congrArg₂ _ none all).trans (List.nil_append back)

/-- Two ends of a list without repetitions that begin with the same row are the same. -/
theorem suffix_eq {whole left right : List ρ} (nodup : whole.Nodup) (isLeft : left <:+ whole)
    (isRight : right <:+ whole) {row : ρ} (headLeft : left.head? = some row)
    (headRight : right.head? = some row) : left = right := by
  obtain ⟨leftRest, rfl⟩ : ∃ rest, left = row :: rest := List.head?_eq_some_iff.mp headLeft
  obtain ⟨rightRest, rfl⟩ : ∃ rest, right = row :: rest := List.head?_eq_some_iff.mp headRight
  obtain ⟨before, rfl⟩ := isLeft
  obtain ⟨other, same⟩ := isRight
  have position : other.length = before.length := by
    have atLeft : (before ++ row :: leftRest)[before.length]? = some row := by simp
    have atRight : (before ++ row :: leftRest)[other.length]? = some row := by simp [← same]
    obtain ⟨boundLeft, isLeft⟩ := List.getElem?_eq_some_iff.mp atLeft
    obtain ⟨boundRight, isRight⟩ := List.getElem?_eq_some_iff.mp atRight
    exact (nodup.getElem_inj_iff).mp (isRight.trans isLeft.symm)
  exact ((List.append_inj same position).2).symm

end Suffixes

section Reading

variable {ρ τ : Type}

/-- Follows the marks that `page` hands out, from `mark` on, until it hands out none. Nothing, when a
page cannot be had or the fuel runs out. -/
def followPages (page : τ → Option (List ρ × Option τ)) : Nat → τ → Option (List (List ρ))
  | 0, _ => none
  | fuel + 1, mark =>
    match page mark with
    | none => none
    | some (rows, none) => some [rows]
    | some (rows, some next) => (followPages page fuel next).map (rows :: ·)

/-- From `mark` on, the pages have at most `limit` rows each, come to an end and hold `rows`. -/
def ReadsFrom (page : τ → Option (List ρ × Option τ)) (limit : Nat) (mark : τ) (rows : List ρ) :
    Prop :=
  ∃ fuel pages, followPages page fuel mark = some pages ∧ pages.flatten = rows ∧
    ∀ part ∈ pages, part.length ≤ limit

variable {page : τ → Option (List ρ × Option τ)} {limit : Nat} {mark : τ}

/-- A last page. -/
theorem readsFrom_last {part rows : List ρ} (isPage : page mark = some (part, none)) :
    ReadsFrom page limit mark rows ↔ part = rows ∧ part.length ≤ limit := by
  constructor
  · rintro ⟨fuel, pages, followed, rfl, bounded⟩
    cases fuel with
    | zero => cases followed
    | succ fuel =>
      rw [followPages, isPage] at followed
      cases followed
      exact ⟨by simp, bounded part List.mem_cons_self⟩
  · rintro ⟨rfl, bounded⟩
    exact ⟨1, [part], by rw [followPages, isPage], by simp, by simpa using bounded⟩

/-- A page with a successor. -/
theorem readsFrom_next {part rest : List ρ} {next : τ} (isPage : page mark = some (part, some next))
    (bounded : part.length ≤ limit) :
    ReadsFrom page limit mark (part ++ rest) ↔ ReadsFrom page limit next rest := by
  constructor
  · rintro ⟨fuel, pages, followed, flat, allBounded⟩
    cases fuel with
    | zero => cases followed
    | succ fuel =>
      rw [followPages, isPage] at followed
      obtain ⟨others, isOthers, rfl⟩ := Option.map_eq_some_iff.mp followed
      refine ⟨fuel, others, isOthers, ?_, fun p member => allBounded p (List.mem_cons_of_mem _ member)⟩
      simpa using flat
  · rintro ⟨fuel, pages, followed, rfl, allBounded⟩
    refine ⟨fuel + 1, part :: pages, ?_, by simp, ?_⟩
    · rw [followPages, isPage]
      exact Option.map_eq_some_iff.mpr ⟨pages, followed, rfl⟩
    intro p member
    rcases List.mem_cons.mp member with rfl | inPages
    · exact bounded
    · exact allBounded p inPages

/-- What is read begins with the first page. -/
theorem readsFrom_starts {rows : List ρ} (reads : ReadsFrom page limit mark rows) :
    ∃ part next, page mark = some (part, next) ∧ part <+: rows ∧ (next = none → part = rows) := by
  obtain ⟨fuel, pages, followed, rfl, -⟩ := reads
  cases fuel with
  | zero => cases followed
  | succ fuel =>
    rw [followPages] at followed
    split at followed
    · cases followed
    · rename_i part isPage
      cases followed
      exact ⟨part, none, isPage, by simp, by simp⟩
    · rename_i part next isPage
      obtain ⟨others, -, rfl⟩ := Option.map_eq_some_iff.mp followed
      exact ⟨part, some next, isPage, by simp, nofun⟩

end Reading

end Relational
