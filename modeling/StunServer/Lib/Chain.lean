import Mathlib.Data.List.Basic
import Mathlib.Logic.Function.Basic

/-! Singly linked chains threaded through an array of cells: `next i` is the cell
after `i`. A chain is tied to the list of cells it visits, so that pushing, popping
and searching become statements about lists. -/

namespace Chain

variable {ι : Type*}

/-- The chain that starts at `head` visits exactly the cells of the list, in order. -/
def IsChain (next : ι → Option ι) : Option ι → List ι → Prop
  | head, [] => head = none
  | head, i :: l => head = some i ∧ IsChain next (next i) l

/-- Writing only outside the chain leaves it as it was. -/
theorem IsChain.frame {next next' : ι → Option ι} {head : Option ι} {l : List ι}
    (h : IsChain next head l) (hf : ∀ i ∈ l, next' i = next i) : IsChain next' head l := by
  induction l generalizing head with
  | nil => exact h
  | cons i l ih =>
    obtain ⟨hh, ht⟩ := h
    refine ⟨hh, ?_⟩
    rw [hf i (by simp)]
    exact ih ht fun j hj => hf j (by simp [hj])

theorem IsChain.push [DecidableEq ι] {next : ι → Option ι} {head : Option ι} {l : List ι} {n : ι}
    (h : IsChain next head l) (hn : n ∉ l) :
    IsChain (Function.update next n head) (some n) (n :: l) := by
  refine ⟨rfl, ?_⟩
  rw [Function.update_self]
  exact h.frame fun i hi => Function.update_of_ne (by rintro rfl; exact hn hi) _ _

theorem IsChain.head_eq_none {next : ι → Option ι} {head : Option ι} {l : List ι}
    (h : IsChain next head l) : head = none ↔ l = [] := by
  cases l with
  | nil => exact ⟨fun _ => rfl, fun _ => h⟩
  | cons i l => simp [h.1]

/-- Walk the chain to the first cell that `p` accepts, remembering the cell before
it. The fuel bounds the number of cells looked at. -/
def search (next : ι → Option ι) (p : ι → Bool) : ℕ → Option ι → Option ι → Option ι × Option ι
  | 0, prev, probe => (prev, probe)
  | _ + 1, prev, none => (prev, none)
  | fuel + 1, prev, some i =>
    if p i then (prev, some i) else search next p fuel (some i) (next i)

/-- With fuel for every cell the walk ends at the first one accepted, if there is one. -/
theorem search_snd {next : ι → Option ι} {p : ι → Bool} {head : Option ι} {l : List ι}
    (h : IsChain next head l) (fuel : ℕ) (hf : l.length < fuel) (prev : Option ι) :
    (search next p fuel prev head).2 = l.find? p := by
  induction l generalizing head fuel prev with
  | nil =>
    obtain rfl : head = none := h
    cases fuel with
    | zero => simp at hf
    | succ fuel => rfl
  | cons i l ih =>
    obtain ⟨rfl, ht⟩ := h
    cases fuel with
    | zero => simp at hf
    | succ fuel =>
      rw [search, List.find?_cons]
      cases hp : p i with
      | true => simp
      | false => simpa using ih ht fuel (by simpa using hf) (some i)

/-- The walk also finds the cell before the one it ends at. -/
theorem search_eq {next : ι → Option ι} {p : ι → Bool} {head : Option ι} {l₁ l₂ : List ι} {n : ι}
    (h : IsChain next head (l₁ ++ n :: l₂)) (hno : ∀ i ∈ l₁, p i = false) (hn : p n = true)
    (fuel : ℕ) (hf : l₁.length < fuel) (prev : Option ι) :
    search next p fuel prev head = (l₁.getLast?.or prev, some n) := by
  induction l₁ generalizing head fuel prev with
  | nil =>
    obtain ⟨rfl, -⟩ := h
    cases fuel with
    | zero => simp at hf
    | succ fuel => simp [search, hn]
  | cons i l₁ ih =>
    obtain ⟨rfl, ht⟩ := h
    cases fuel with
    | zero => simp at hf
    | succ fuel =>
      have hrest := ih ht (fun j hj => hno j (by simp [hj])) fuel (by simpa using hf) (some i)
      rw [search, hno i (by simp)]
      simp only [Bool.false_eq_true, if_false]
      rw [hrest, List.getLast?_cons]
      cases l₁.getLast? <;> rfl

/-- A list with a cell that `p` accepts, taken apart at the first one. -/
theorem exists_split {p : ι → Bool} {l : List ι} {n : ι} (h : l.find? p = some n) :
    ∃ l₁ l₂, l = l₁ ++ n :: l₂ ∧ (∀ i ∈ l₁, p i = false) ∧ p n = true := by
  obtain ⟨hn, l₁, l₂, rfl, hno⟩ := List.find?_eq_some_iff_append.mp h
  exact ⟨l₁, l₂, rfl, fun i hi => by simpa using hno i hi, hn⟩

/-- The first cell is dropped by moving the head. -/
theorem IsChain.unlink_head {next : ι → Option ι} {head : Option ι} {n : ι} {l : List ι}
    (h : IsChain next head (n :: l)) : IsChain next (next n) l := h.2

/-- Any other cell is dropped by a new successor for the one before it. -/
theorem IsChain.unlink [DecidableEq ι] {next : ι → Option ι} {head : Option ι} {l₁ l₂ : List ι}
    {q n : ι} (h : IsChain next head (l₁ ++ n :: l₂)) (hq : l₁.getLast? = some q)
    (hnd : (l₁ ++ n :: l₂).Nodup) :
    IsChain (Function.update next q (next n)) head (l₁ ++ l₂) := by
  induction l₁ generalizing head with
  | nil => simp at hq
  | cons i l₁ ih =>
    obtain ⟨rfl, ht⟩ := h
    refine ⟨rfl, ?_⟩
    rw [List.cons_append, List.nodup_cons] at hnd
    cases l₁ with
    | nil =>
      obtain rfl : i = q := by simpa using hq
      rw [Function.update_self]
      refine ht.2.frame fun j hj => Function.update_of_ne ?_ _ _
      rintro rfl
      exact hnd.1 (by simpa using Or.inr hj)
    | cons j l₁ =>
      rw [List.getLast?_cons_cons] at hq
      have hqmem : q ∈ j :: l₁ := List.mem_of_getLast? hq
      rw [Function.update_of_ne (by rintro rfl; exact hnd.1 (List.mem_append_left _ hqmem))]
      exact ih ht hq hnd.2

end Chain
