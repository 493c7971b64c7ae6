import RecordFilter.Proofs.TokenSets

/-!
# Outer parentheses

A text that begins and ends with a parenthesis need not be in parentheses: in `(a) and (b)` the first one is
closed early. Which one closes which is a matter of nesting: a closing parenthesis belongs to the last one
before it that is still open. The parser does not look at nesting. It compares the first opening parenthesis
with the first closing one, the second with the second, and so on. As long as there are as many of both, this
gives the same answer.

Main statement: `stripEnclosing?_iff_pair`.
-/

namespace RecordFilter
namespace Filter

/-! ## Prefixes -/

/-- Parentheses are closed in order if and only if no beginning of the text closes more of them than are
open. -/
theorem depthAfter?_isSome_iff {depth : Nat} {t : Text} :
    (depthAfter? depth t).isSome = true ↔ ∀ u, u <+: t → u.count ')' ≤ depth + u.count '(' := by
  constructor
  · rintro h u ⟨v, rfl⟩
    rw [depthAfter?_append, Option.isSome_bind] at h
    cases hu : depthAfter? depth u with
    | none =>
      rw [hu] at h
      cases h
    | some inner =>
      have := depthAfter?_count hu
      omega
  · -- what is asked of a beginning of the rest, with the first character in front
    have hcons : ∀ {depth : Nat} {c : Char} {t : Text},
        (∀ u, u <+: c :: t → u.count ')' ≤ depth + u.count '(') →
        ∀ u, u <+: t → (c :: u).count ')' ≤ depth + (c :: u).count '(' := by
      rintro depth c t h u ⟨v, rfl⟩
      exact h (c :: u) ⟨v, rfl⟩
    induction depth, t using depth_induction with
    | nil => exact fun _ => rfl
    | opening depth t ih =>
      refine fun h => ih fun u hu => ?_
      have := hcons h u hu
      simp at this
      omega
    | orphan t => exact fun h => by simpa using hcons h [] List.nil_prefix
    | closing depth t ih =>
      refine fun h => ih fun u hu => ?_
      have := hcons h u hu
      simp at this
      omega
    | other depth c t hopen hclose ih =>
      intro h
      rw [depthAfter?_other hopen hclose]
      refine ih fun u hu => ?_
      simpa [List.count_cons, hopen, hclose] using hcons h u hu

/-! ## Pairs -/

/-- The positions of the parentheses that belong together, where a text begins at `start` and the parentheses at
`opens` are open, the last one first. A closing parenthesis that has none before it belongs to nothing. -/
def pairsFrom (start : Nat) (opens : List Nat) : Text → List (Nat × Nat)
  | [] => []
  | c :: t =>
    if c = '(' then pairsFrom (start + 1) (start :: opens) t
    else if c = ')' then
      match opens with
      | [] => pairsFrom (start + 1) [] t
      | opened :: outer => (opened, start) :: pairsFrom (start + 1) outer t
    else pairsFrom (start + 1) opens t

/-- The positions of the parentheses of a text that belong together. -/
def pairs (t : Text) : List (Nat × Nat) :=
  pairsFrom 0 [] t

/-- What is opened in a pair was open before the text or is opened in it. -/
theorem mem_or_le_of_mem_pairsFrom {t : Text} : ∀ {start : Nat} {opens : List Nat} {opened closed : Nat},
    (opened, closed) ∈ pairsFrom start opens t → opened ∈ opens ∨ start ≤ opened := by
  induction t with
  | nil => exact nofun
  | cons c t ih =>
    intro start opens opened closed h
    have hrest : ∀ {outer}, (opened, closed) ∈ pairsFrom (start + 1) outer t →
        opened ∈ outer ∨ start ≤ opened := fun h => (ih h).imp_right Nat.le_of_succ_le
    simp only [pairsFrom] at h
    split at h
    · rcases hrest h with hmem | hle
      · rcases List.mem_cons.1 hmem with rfl | hmem
        · exact .inr (Nat.le_refl opened)
        · exact .inl hmem
      · exact .inr hle
    · split at h
      · cases opens with
        | nil => exact hrest h
        | cons first outer =>
          rcases List.mem_cons.1 h with heq | h
          · obtain ⟨rfl, -⟩ := Prod.mk.inj heq
            exact .inl List.mem_cons_self
          · exact (hrest h).imp_left (List.mem_cons_of_mem first)
      · exact hrest h

/-- By induction on the text, in which `opens` are open above a parenthesis at `bottom`: if it closes them all
and nothing more, a closing parenthesis behind the text belongs to the one at `bottom`. If it closes more, the
one at `bottom` is in a pair already, and if it closes less, another one is in the pair. -/
theorem mem_pairsFrom_iff {t : Text} : ∀ {start bottom : Nat} {opens : List Nat}, bottom < start →
    bottom ∉ opens →
    ((bottom, start + t.length) ∈ pairsFrom start (opens ++ [bottom]) (t ++ [')']) ↔
      depthAfter? opens.length t = some 0) := by
  induction t with
  | nil =>
    intro start bottom opens _ hopens
    cases opens with
    | nil => simp [pairsFrom]
    | cons first opens =>
      have hfirst : bottom ≠ first := fun h => hopens (h ▸ List.mem_cons_self)
      simp [pairsFrom, hfirst]
  | cons c t ih =>
    intro start bottom opens hbottom hopens
    have hlater : bottom < start + 1 := Nat.lt_succ_of_lt hbottom
    rw [List.length_cons, Nat.add_comm t.length 1, ← Nat.add_assoc, List.cons_append]
    by_cases hopen : c = '('
    · subst hopen
      have hnew : bottom ∉ start :: opens :=
        List.not_mem_cons_of_ne_of_not_mem (Nat.ne_of_lt hbottom) hopens
      rw [depthAfter?_open]
      exact ih hlater hnew
    · by_cases hclose : c = ')'
      · subst hclose
        cases opens with
        | nil =>
          -- the one at the bottom is closed here, and nothing is opened at its place later
          have hgone : (bottom, start + 1 + t.length) ∉ pairsFrom (start + 1) [] (t ++ [')']) := by
            intro h
            have := mem_or_le_of_mem_pairsFrom h
            simp only [List.not_mem_nil, false_or] at this
            omega
          have hplace : start + 1 + t.length ≠ start := by omega
          simp [pairsFrom, hgone, hplace]
        | cons first opens =>
          have hfirst : bottom ≠ first := fun h => hopens (h ▸ List.mem_cons_self)
          have hrest : bottom ∉ opens := fun h => hopens (List.mem_cons_of_mem first h)
          rw [List.length_cons, depthAfter?_close, ← ih hlater hrest]
          simp [pairsFrom, hfirst]
      · rw [depthAfter?_other hopen hclose, ← ih hlater hopens]
        simp [pairsFrom, hopen, hclose]

/-- The first parenthesis and the last one around a text belong together if and only if the text closes exactly
the parentheses that it opens. -/
theorem mem_pairs_enclosed_iff (t : Text) :
    (0, t.length + 1) ∈ pairs ('(' :: t ++ [')']) ↔ depthAfter? 0 t = some 0 := by
  have h := @mem_pairsFrom_iff t 1 0 [] Nat.one_pos List.not_mem_nil
  rw [Nat.add_comm 1] at h
  exact h

/-! ## Positions -/

theorem getElem?_of_mem_positionsFrom {c : Char} {t : Text} : ∀ {start p : Nat},
    p ∈ positionsFrom c start t → t[p - start]? = some c := by
  induction t with
  | nil => exact nofun
  | cons d t ih =>
    intro start p h
    have hrest : p ∈ positionsFrom c (start + 1) t → (d :: t)[p - start]? = some c := by
      intro h
      have hle := le_of_mem_positionsFrom h
      rw [← Nat.sub_add_cancel (Nat.sub_pos_of_lt hle), Nat.sub_sub, List.getElem?_cons_succ]
      exact ih h
    simp only [positionsFrom] at h
    split at h
    · rename_i hd
      rcases List.mem_cons.1 h with rfl | h
      · rw [Nat.sub_self, List.getElem?_cons_zero, hd]
      · exact hrest h
    · exact hrest h

/-- There is no orphan in a text with as many parentheses of both kinds if and only if the first opening one is
in front of the first closing one, the second in front of the second, and so on. -/
theorem hasOrphan_eq_false_iff {t : Text} (hcount : t.count '(' = t.count ')') :
    hasOrphan t = false ↔ ∀ (i opened closed : Nat), (positions '(' t)[i]? = some opened →
      (positions ')' t)[i]? = some closed → opened < closed := by
  have hlength : (positions '(' t).length = (positions ')' t).length := by
    rw [positions, positions, length_positionsFrom, length_positionsFrom, hcount]
  have hne : ∀ p, p ∈ positions '(' t → p ∉ positions ')' t := by
    intro p hopen hclose
    have hchar := getElem?_of_mem_positionsFrom hopen
    rw [getElem?_of_mem_positionsFrom hclose] at hchar
    cases hchar
  simp only [hasOrphan, hlength, beq_self_eq_true, Bool.true_and, List.any_eq_false, decide_eq_true_eq,
    Nat.not_lt]
  constructor
  · intro h i opened closed hopened hclosed
    have hpair : (opened, closed) ∈ (positions '(' t).zip (positions ')' t) :=
      List.mem_iff_getElem?.2 ⟨i, List.getElem?_zip_eq_some.2 ⟨hopened, hclosed⟩⟩
    refine Nat.lt_of_le_of_ne (h _ hpair) ?_
    rintro rfl
    exact hne opened (List.mem_of_getElem? hopened) (List.mem_of_getElem? hclosed)
  · rintro h ⟨opened, closed⟩ hpair
    obtain ⟨i, hi⟩ := List.mem_iff_getElem?.1 hpair
    obtain ⟨hopened, hclosed⟩ := List.getElem?_zip_eq_some.1 hi
    exact Nat.le_of_lt (h i opened closed hopened hclosed)

/-- With as many parentheses of both kinds in a text, `stripEnclosing?` takes off the pair around it if and
only if no beginning of the text closes more than it opens. This is so if and only if the two are one of the
`pairs` by nesting, and if and only if the `positions` are in order one by one. -/
theorem stripEnclosing?_iff_pair {t : Text} (hne : t ≠ []) (hcount : t.count '(' = t.count ')') :
    (∀ inside, stripEnclosing? ('(' :: t ++ [')']) = some inside ↔
      inside = Text.trim t ∧ ∀ u, u <+: t → u.count ')' ≤ u.count '(') ∧
    ((∀ u, u <+: t → u.count ')' ≤ u.count '(') ↔ (0, t.length + 1) ∈ pairs ('(' :: t ++ [')'])) ∧
    ((∀ u, u <+: t → u.count ')' ≤ u.count '(') ↔ ∀ (i opened closed : Nat),
      (positions '(' t)[i]? = some opened → (positions ')' t)[i]? = some closed → opened < closed) := by
  have hprefix : (depthAfter? 0 t).isSome = true ↔ ∀ u, u <+: t → u.count ')' ≤ u.count '(' := by
    simpa using @depthAfter?_isSome_iff 0 t
  have horphan : hasOrphan t = false ↔ (depthAfter? 0 t).isSome = true := by
    simp [hasOrphan_eq, hcount]
  have hzero : depthAfter? 0 t = some 0 ↔ (depthAfter? 0 t).isSome = true := by
    refine ⟨fun h => by rw [h]; rfl, fun h => ?_⟩
    obtain ⟨depth, hdepth⟩ := Option.isSome_iff_exists.1 h
    have hbalance := depthAfter?_count hdepth
    obtain rfl : depth = 0 := by omega
    exact hdepth
  refine ⟨fun inside => ?_, ?_, ?_⟩
  · rw [stripEnclosing?_enclosed hne, ← hprefix, ← horphan]
    cases hasOrphan t <;> simp [eq_comm]
  · rw [mem_pairs_enclosed_iff, hzero, hprefix]
  · rw [← hasOrphan_eq_false_iff hcount, horphan, hprefix]

/-- The inner parentheses of `((a) or f(b))` are in order. -/
theorem stripEnclosing?_iff_pair_or :
    let t := "(a) or f(b)".toList
    t ≠ [] ∧ t.count '(' = t.count ')' ∧ (0, 12) ∈ pairs ('(' :: t ++ [')']) ∧
      stripEnclosing? ('(' :: t ++ [')']) = some t := by
  intro t
  have hne : t ≠ [] := by decide
  have hcount : t.count '(' = t.count ')' := by decide
  obtain ⟨hstrip, hpair, -⟩ := stripEnclosing?_iff_pair hne hcount
  have hmem : (0, 12) ∈ pairs ('(' :: t ++ [')']) := by decide
  exact ⟨hne, hcount, hmem, (hstrip t).2 ⟨by decide, hpair.2 hmem⟩⟩

example : pairs "(a) and (b)".toList = [(0, 2), (8, 10)] ∧ stripEnclosing? "(a) and (b)".toList = none := by
  decide

end Filter
end RecordFilter
