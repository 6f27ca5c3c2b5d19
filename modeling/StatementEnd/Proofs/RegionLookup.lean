import StatementEnd.Token.Regions

/-!
# Looking up the start of a range

The starts are kept strictly increasing, so halving finds a position exactly when it is
one of them. What is asked of a host is therefore plain membership in the list that it
was given.
-/

namespace StatementEnd
namespace RegionStarts

/-!
## The order of the starts
-/

theorem pairwise_dropRepeats {positions : List Nat} (h : positions.Pairwise (· ≤ ·)) :
    (dropRepeats positions).Pairwise (· < ·) := by
  induction positions using dropRepeats.induct with
  | case1 first rest ih =>
      rw [dropRepeats, if_pos rfl]
      exact ih (List.pairwise_cons.mp h).2
  | case2 first second rest hdiffer ih =>
      rw [dropRepeats, if_neg hdiffer]
      rcases List.pairwise_cons.mp h with ⟨hfirst, hrest⟩
      apply List.pairwise_cons.mpr
      refine ⟨?_, ih hrest⟩
      intro pos hmem
      have hlt : first < second := Nat.lt_of_le_of_ne (hfirst second (by simp)) hdiffer
      rcases List.mem_cons.mp ((mem_dropRepeats _).mp hmem) with heq | htail
      · rw [heq]
        exact hlt
      · exact Nat.lt_of_lt_of_le hlt ((List.pairwise_cons.mp hrest).1 pos htail)
  | case3 short hshort =>
      rw [dropRepeats]
      · cases short with
        | nil => exact List.Pairwise.nil
        | cons first rest =>
            cases rest with
            | nil => exact List.pairwise_singleton _ _
            | cons second rest => exact absurd rfl (hshort first second rest)
      · exact hshort

theorem pairwise_starts (positions : List Nat) :
    (ofList positions).starts.toList.Pairwise (· < ·) := by
  apply pairwise_dropRepeats
  have htrans : forall a b c : Nat, decide (a ≤ b) = true -> decide (b ≤ c) = true ->
      decide (a ≤ c) = true := by
    simpa using fun _ _ _ => Nat.le_trans
  have htotal : forall a b : Nat, (decide (a ≤ b) || decide (b ≤ a)) = true := by
    simpa using Nat.le_total
  have hsorted := List.pairwise_mergeSort htrans htotal positions
  simpa using hsorted

theorem mem_starts {positions : List Nat} {pos : Nat} :
    pos ∈ (ofList positions).starts.toList <-> pos ∈ positions := by
  simp [ofList, mem_dropRepeats, List.mem_mergeSort]

/-!
## Halving
-/

theorem getElem?_middle {starts : Array Nat} {middle : Nat} (h : middle < starts.size) :
    starts.toList[middle]? = some (starts.getD middle 0) := by
  simp [Array.getD, h]

theorem lt_of_starts_lt {starts : Array Nat} (hsorted : starts.toList.Pairwise (· < ·))
    {i j a b : Nat} (hi : starts.toList[i]? = some a) (hj : starts.toList[j]? = some b)
    (hlt : a < b) : i < j := by
  apply Nat.lt_of_not_le
  intro hle
  rcases List.getElem?_eq_some_iff.mp hi with ⟨hin, hget⟩
  rcases List.getElem?_eq_some_iff.mp hj with ⟨hjn, hget'⟩
  rcases Nat.eq_or_lt_of_le hle with heq | hbefore
  · subst heq
    rw [hj] at hi
    cases hi
    exact Nat.lt_irrefl _ hlt
  · have horder := List.pairwise_iff_getElem.mp hsorted j i hjn hin hbefore
    rw [hget, hget'] at horder
    exact Nat.lt_asymm hlt horder

/-- Halving finds what stands between two indices of increasing starts. -/
theorem search_iff {starts : Array Nat} (hsorted : starts.toList.Pairwise (· < ·))
    (pos low high : Nat) (hhigh : high ≤ starts.size) :
    search starts pos low high = true <->
      exists i : Nat, low ≤ i ∧ i < high ∧ starts.toList[i]? = some pos := by
  induction low, high using search.induct starts pos with
  | case1 low high hlt middle found hfound =>
      have hmiddle : middle < high := by omega
      have hget := getElem?_middle (Nat.lt_of_lt_of_le hmiddle hhigh)
      rw [search, if_pos hlt, if_pos hfound]
      refine iff_of_true rfl ⟨middle, Nat.le_add_right _ _, hmiddle, ?_⟩
      rw [hget]
      exact congrArg some hfound
  | case2 low high hlt middle found hdiffer hbefore ih =>
      have hmiddle : middle < high := by omega
      have hget := getElem?_middle (Nat.lt_of_lt_of_le hmiddle hhigh)
      rw [search, if_pos hlt, if_neg hdiffer, if_pos hbefore, ih hhigh]
      constructor
      · intro hright
        rcases hright with ⟨i, hfrom, hto, hthere⟩
        exact ⟨i, by omega, hto, hthere⟩
      · intro hwhole
        rcases hwhole with ⟨i, _, hto, hthere⟩
        exact ⟨i, lt_of_starts_lt hsorted hget hthere hbefore, hto, hthere⟩
  | case3 low high hlt middle found hdiffer hbefore ih =>
      have hmiddle : middle < high := by omega
      have hget := getElem?_middle (Nat.lt_of_lt_of_le hmiddle hhigh)
      have hafter : pos < found := Nat.lt_of_le_of_ne (Nat.le_of_not_lt hbefore) (Ne.symm hdiffer)
      rw [search, if_pos hlt, if_neg hdiffer, if_neg hbefore, ih (by omega)]
      constructor
      · intro hleft
        rcases hleft with ⟨i, hfrom, hto, hthere⟩
        exact ⟨i, hfrom, by omega, hthere⟩
      · intro hwhole
        rcases hwhole with ⟨i, hfrom, _, hthere⟩
        exact ⟨i, hfrom, lt_of_starts_lt hsorted hthere hget hafter, hthere⟩
  | case4 low high hge =>
      rw [search, if_neg hge]
      apply iff_of_false Bool.noConfusion
      intro hfound
      rcases hfound with ⟨i, hfrom, hto, _⟩
      omega

theorem contains_ofList_iff (positions : List Nat) (pos : Nat) :
    (ofList positions).contains pos = true <-> pos ∈ positions := by
  rw [contains, search_iff (pairwise_starts positions) pos 0 _ (Nat.le_refl _), ← mem_starts]
  constructor
  · intro hfound
    rcases hfound with ⟨i, _, _, hget⟩
    exact List.mem_of_getElem? hget
  · intro hmem
    rcases List.mem_iff_getElem?.mp hmem with ⟨i, hget⟩
    refine ⟨i, Nat.zero_le i, ?_, hget⟩
    simpa using (List.getElem?_eq_some_iff.mp hget).1

theorem contains_ofList_nil (pos : Nat) : (ofList []).contains pos = false := by
  apply Bool.eq_false_iff.mpr
  intro hstarts
  exact List.not_mem_nil ((contains_ofList_iff [] pos).mp hstarts)

end RegionStarts
end StatementEnd
