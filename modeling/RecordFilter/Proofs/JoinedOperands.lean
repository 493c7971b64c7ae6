import RecordFilter.Proofs.ChainedFilters

/-!
# Operands joined by a connective

Any number of operands can be joined by `and`, or by `or`, in as many ways as brackets can be set. An
operand is true, false or null, or it has no truth value at all, and what comes after an operand that
decides the connective is not looked at. None of this depends on the brackets: the outcomes of operands,
with the connective between them, are a monoid.

Main statement: `CompiledFilter.tryMatches_joins`.
-/

namespace RecordFilter

namespace Evaluation

/-! ## Outcomes as a monoid -/

/-- The outcome of a connective between two outcomes. The right one counts only if the left one is a
truth value that does not decide the connective. -/
def connected (op : Connective) (left right : Outcome (Option Bool)) : Outcome (Option Bool) :=
  match left with
  | .error error => .error error
  | .ok left =>
    if left = some op.decisive then .ok (some op.decisive) else right.map (connect op left)

/-- The outcome that changes nothing beside it. -/
def neutral (op : Connective) : Outcome (Option Bool) :=
  .ok (some (!op.decisive))

theorem connected_neutral (op : Connective) (a : Outcome (Option Bool)) :
    connected op a (neutral op) = a := by
  rcases a with _ | _ | _ | _ <;> cases op <;> rfl

theorem neutral_connected (op : Connective) (a : Outcome (Option Bool)) :
    connected op (neutral op) a = a := by
  rcases a with _ | _ | _ | _ <;> cases op <;> rfl

/-- Null on the left leaves it to the right side whether an error counts, and an error on the left counts
whatever follows, so that the first error is the same for both ways to set brackets. -/
theorem connected_assoc (op : Connective) (a b c : Outcome (Option Bool)) :
    connected op (connected op a b) c = connected op a (connected op b c) := by
  rcases a with _ | _ | _ | _ <;> rcases b with _ | _ | _ | _ <;> rcases c with _ | _ | _ | _ <;>
    cases op <;> rfl

/-- The outcome of outcomes in a row. -/
def connectedAll (op : Connective) : List (Outcome (Option Bool)) → Outcome (Option Bool)
  | [] => neutral op
  | a :: rest => connected op a (connectedAll op rest)

theorem connectedAll_append (op : Connective) (as bs : List (Outcome (Option Bool))) :
    connectedAll op (as ++ bs) = connected op (connectedAll op as) (connectedAll op bs) := by
  induction as with
  | nil => rw [List.nil_append, connectedAll, neutral_connected]
  | cons a as ih => rw [List.cons_append, connectedAll, ih, connectedAll, connected_assoc]

/-! ## Operands -/

/-- The truth value of an operand of a connective. -/
def operandTruth (op : Connective) (flagsMatch : FlagsMatch) (record : FieldReader) (p : Predicate) :
    Outcome (Option Bool) :=
  (value flagsMatch record p).bind (truth op.keyword)

theorem truth_ofTruth (operation : String) (known : Option Bool) :
    truth operation (ofTruth known) = .ok known := by
  cases known <;> rfl

variable {flagsMatch : FlagsMatch} {record : FieldReader} {op : Connective}

/-- A connective has the truth value that its operands have together. -/
theorem value_connective (p q : Predicate) (type : ValueType) :
    value flagsMatch record (.binary (.connective op) p q type)
      = (connected op (operandTruth op flagsMatch record p)
          (operandTruth op flagsMatch record q)).map ofTruth := by
  rw [value]
  simp only [operandTruth]
  cases value flagsMatch record p with
  | error error => rfl
  | ok left =>
    simp only [Except.bind]
    cases truth op.keyword left with
    | error error => rfl
    | ok left =>
      simp only [connected]
      split
      · rfl
      · cases value flagsMatch record q with
        | error error => rfl
        | ok right =>
          simp only
          cases truth op.keyword right <;> rfl

theorem exists_ofTruth_of_connective {p q : Predicate} {type : ValueType} {found : Value}
    (h : value flagsMatch record (.binary (.connective op) p q type) = .ok found) :
    ∃ known, found = ofTruth known := by
  rw [value_connective] at h
  obtain ⟨known, -, rfl⟩ := Except.map_eq_ok_iff.1 h
  exact ⟨known, rfl⟩

theorem operandTruth_connective (p q : Predicate) (type : ValueType) :
    operandTruth op flagsMatch record (.binary (.connective op) p q type)
      = connected op (operandTruth op flagsMatch record p) (operandTruth op flagsMatch record q) := by
  rw [operandTruth, value_connective]
  cases connected op (operandTruth op flagsMatch record p) (operandTruth op flagsMatch record q) with
  | error error => rfl
  | ok known => exact truth_ofTruth _ known

end Evaluation

/-! ## Trees of one connective -/

namespace Predicate

/-- Whether a predicate joins operands in their order by one connective, with any brackets. -/
inductive Joins (op : Connective) : List Predicate → Predicate → Prop
  | operand (p : Predicate) : Joins op [p] p
  | connective {ps qs : List Predicate} {p q : Predicate} (type : ValueType) (hp : Joins op ps p)
      (hq : Joins op qs q) : Joins op (ps ++ qs) (.binary (.connective op) p q type)

namespace Joins

variable {op : Connective} {ps : List Predicate} {p q : Predicate}

theorem ne_nil (h : Joins op ps p) : ps ≠ [] := by
  induction h with
  | operand => simp
  | connective _ _ _ ihp _ => simp [ihp]

/-- A tree over a single operand is that operand. -/
theorem eq_of_singleton (h : Joins op [p] q) : q = p := by
  generalize hps : [p] = ps at h
  cases h with
  | operand => exact (List.cons.inj hps).1.symm
  | connective type hp hq =>
    have hlength := congrArg List.length hps
    have hleft := List.length_pos_of_ne_nil hp.ne_nil
    have hright := List.length_pos_of_ne_nil hq.ne_nil
    rw [List.length_append, List.length_singleton] at hlength
    omega

variable {flagsMatch : FlagsMatch} {record : FieldReader}

/-- The truth value of a tree is that of its operands in a row. -/
theorem operandTruth (h : Joins op ps p) :
    Evaluation.operandTruth op flagsMatch record p
      = Evaluation.connectedAll op (ps.map (Evaluation.operandTruth op flagsMatch record)) := by
  induction h with
  | operand p => exact (Evaluation.connected_neutral op _).symm
  | connective type _ _ ihp ihq =>
    rw [Evaluation.operandTruth_connective, ihp, ihq, List.map_append, Evaluation.connectedAll_append]

/-- Unless it is a single operand, a tree has the value of its operands in a row. -/
theorem value (h : Joins op ps p) (hlength : 1 < ps.length) :
    Evaluation.value flagsMatch record p
      = (Evaluation.connectedAll op (ps.map (Evaluation.operandTruth op flagsMatch record))).map
          Evaluation.ofTruth := by
  cases h with
  | operand => simp at hlength
  | connective type hp hq =>
    rw [Evaluation.value_connective, hp.operandTruth, hq.operandTruth, List.map_append,
      Evaluation.connectedAll_append]

/-- The brackets do not change the value. -/
theorem value_eq (hp : Joins op ps p) (hq : Joins op ps q) :
    Evaluation.value flagsMatch record p = Evaluation.value flagsMatch record q := by
  match ps with
  | [] => exact absurd rfl hp.ne_nil
  | [only] => rw [hp.eq_of_singleton, hq.eq_of_singleton]
  | _ :: _ :: _ => rw [hp.value (by simp), hq.value (by simp)]

/-- A tree of conjunctions accepts what all of its operands accept. -/
theorem accepts_iff (h : Joins .and ps p) :
    (CompiledFilter.mk (some p) flagsMatch).accepts record = true ↔
      ∀ operand ∈ ps, (CompiledFilter.mk (some operand) flagsMatch).accepts record = true := by
  induction h with
  | operand p => simp
  | connective type _ _ ihp ihq => rw [CompiledFilter.accepts_and, ihp, ihq, List.forall_mem_append]

end Joins

end Predicate

namespace CompiledFilter

/-- Two trees that join the same operands in the same order by one connective have the same outcome on
every record: the same truth or the same error. If the connective is `and`, they accept a record if and
only if each operand by itself does, also where operands are null or fail. -/
theorem tryMatches_joins {op : Connective} {operands : List Predicate} {p q : Predicate}
    (hp : p.Joins op operands) (hq : q.Joins op operands) (flagsMatch : FlagsMatch)
    (record : FieldReader) :
    (CompiledFilter.mk (some p) flagsMatch).tryMatches record
        = (CompiledFilter.mk (some q) flagsMatch).tryMatches record ∧
      (op = .and → ((CompiledFilter.mk (some p) flagsMatch).accepts record = true ↔
        ∀ operand ∈ operands,
          (CompiledFilter.mk (some operand) flagsMatch).accepts record = true)) := by
  refine ⟨?_, fun hop => ?_⟩
  · simp only [tryMatches, hp.value_eq hq]
  · subst hop
    exact hp.accepts_iff

/-- Null, a division by zero and `false`: the division fails with the brackets on either side, although
`false` comes after it. -/
theorem tryMatches_joins_failing :
    ∃ a b c p q : Predicate,
      a = .property ⟨["Flag"]⟩ (.nullable .boolean) ∧
      b = .binary (.comparison .eq) (.binary (.arithmetic .div) (.constant (.int32 1) .int32)
        (.constant (.int32 0) .int32) .int32) (.constant (.int32 1) .int32) .boolean ∧
      c = .constant (.boolean false) .boolean ∧
      p = .binary (.connective .and) (.binary (.connective .and) a b .boolean) c .boolean ∧
      q = .binary (.connective .and) a (.binary (.connective .and) b c .boolean) .boolean ∧
      p.Joins .and [a, b, c] ∧ q.Joins .and [a, b, c] ∧
      (CompiledFilter.mk (some q) .exact).tryMatches (fun _ => some .null)
        = .error (.value .divideByZero) ∧
      (CompiledFilter.mk (some p) .exact).tryMatches (fun _ => some .null)
        = (CompiledFilter.mk (some q) .exact).tryMatches (fun _ => some .null) := by
  have hleft : ∀ a b c : Predicate, (Predicate.binary (.connective .and)
      (.binary (.connective .and) a b .boolean) c .boolean).Joins .and ([a] ++ [b] ++ [c]) :=
    fun a b c => .connective .boolean (.connective .boolean (.operand a) (.operand b)) (.operand c)
  have hright : ∀ a b c : Predicate, (Predicate.binary (.connective .and) a
      (.binary (.connective .and) b c .boolean) .boolean).Joins .and ([a] ++ ([b] ++ [c])) :=
    fun a b c => .connective .boolean (.operand a) (.connective .boolean (.operand b) (.operand c))
  exact ⟨_, _, _, _, _, rfl, rfl, rfl, rfl, rfl, hleft _ _ _, hright _ _ _, rfl,
    (tryMatches_joins (hleft _ _ _) (hright _ _ _) .exact _).1⟩

end CompiledFilter
end RecordFilter
