namespace Daybook

/-- A set of numbers, with its members in ascending order, so that two sets with the same members are the
    same. -/
structure NumberSet where
  toList : List Nat
  ascending : toList.Pairwise (· < ·)
  deriving DecidableEq

namespace NumberSet

instance : EmptyCollection NumberSet := ⟨⟨[], .nil⟩⟩

/-- Puts a number in its place in an ascending list, unless it is there already. -/
def insertAscending (n : Nat) : List Nat → List Nat
  | [] => [n]
  | m :: ms => if n < m then n :: m :: ms else if n = m then m :: ms else m :: insertAscending n ms

private theorem mem_insertAscending {n k : Nat} {ms : List Nat} :
    k ∈ insertAscending n ms ↔ k = n ∨ k ∈ ms := by
  induction ms with
  | nil => simp [insertAscending]
  | cons m ms ih =>
    unfold insertAscending
    split
    · simp
    · split
      · rename_i heq
        subst heq
        simp
      · simp only [List.mem_cons, ih]
        constructor <;> (intro h; rcases h with h | h | h <;> simp [h])

private theorem pairwise_insertAscending (n : Nat) {ms : List Nat} (hms : ms.Pairwise (· < ·)) :
    (insertAscending n ms).Pairwise (· < ·) := by
  induction ms with
  | nil => simp [insertAscending]
  | cons m ms ih =>
    obtain ⟨hhead, htail⟩ := List.pairwise_cons.mp hms
    unfold insertAscending
    split
    · rename_i hlt
      refine List.pairwise_cons.mpr ⟨fun k hk => ?_, hms⟩
      rcases List.mem_cons.mp hk with rfl | hk
      · exact hlt
      · exact Nat.lt_trans hlt (hhead k hk)
    · split
      · exact hms
      · refine List.pairwise_cons.mpr ⟨fun k hk => ?_, ih htail⟩
        rcases mem_insertAscending.mp hk with rfl | hk
        · omega
        · exact hhead k hk

def insert (s : NumberSet) (n : Nat) : NumberSet :=
  ⟨insertAscending n s.toList, pairwise_insertAscending n s.ascending⟩

/-- The numbers of a list, as a set. -/
def ofList (ns : List Nat) : NumberSet :=
  ns.foldr (fun n s => s.insert n) ∅

def isEmpty (s : NumberSet) : Bool :=
  s.toList.isEmpty

def contains (s : NumberSet) (n : Nat) : Bool :=
  s.toList.contains n

/-- A set holds exactly the numbers it is made from. -/
theorem mem_toList_ofList {k : Nat} {ns : List Nat} : k ∈ (ofList ns).toList ↔ k ∈ ns := by
  induction ns with
  | nil => simp [ofList, EmptyCollection.emptyCollection]
  | cons n ns ih =>
    show k ∈ insertAscending n (ofList ns).toList ↔ _
    rw [mem_insertAscending, ih, List.mem_cons]

end NumberSet

end Daybook
