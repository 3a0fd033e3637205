import Mathlib
import LogicTutor.Proofs.Formula.Glossary
import LogicTutor.Proofs.Prover.Progress
import LogicTutor.Tutor.Verdict

/-! The judgement on two texts always comes to an end, and what it says about their equivalence
is the truth: it depends neither on the method of proof nor on advice or chance, whatever the
source is that numbers are drawn from. -/
namespace LogicTutor.Verdict

variable {γ : Type} [Source γ] {method : ProofMethod} {f g : Formula} {d e : Glossary}
  {s : Session γ}

/-- The methods of proof that are carried out. -/
def methods : List ProofMethod := [.automatic, .direct, .contrapositive, .absurd]

/-- A try to prove an equivalence comes to an end and does not take it back. -/
theorem attempt_yields (hm : method ∈ methods) (hs : s.Ready) (hf : f.WellFormed)
    (hg : g.WellFormed) (passes : Nat) (t : TruthTable) :
    Yields (attempt method passes f g t s) fun r => r.1.equivalent = true := by
  have hA := hs.answers
  unfold attempt
  cases method with
  | automatic =>
    refine (Prover.inTurn_yields hA ⟨rfl, rfl⟩ hf hg).bind fun r _ => ?_
    obtain ⟨c, u⟩ := r
    dsimp only
    split
    · exact .ok rfl
    · exact .ok rfl
  | direct => exact (Prover.guidedFrom_yields hA passes 0 ⟨rfl, rfl⟩ hf hg).bind fun _ _ => .ok rfl
  | contrapositive =>
    exact (Prover.contrapositive_yields hA ⟨rfl, rfl⟩ hf hg).bind fun _ _ => .ok rfl
  | absurd => exact (Prover.absurdity_yields hA ⟨rfl, rfl⟩ hf hg).bind fun _ _ => .ok rfl
  | unsupported name => simp [methods] at hm

/-- Two formulas are judged equivalent exactly if they are. -/
theorem judge_yields (hm : method ∈ methods) (hs : s.Ready) (hd : d.Describes f)
    (he : e.Describes g) (hf : f.Proper) (hg : g.Proper) (passes : Nat) :
    Yields (judge method passes f d g e s) fun r =>
      r.1.equivalent = true ↔ f.Equivalent g := by
  refine (TruthTable.make_yields hf.wellFormed hg.wellFormed d e s.values).bind fun r _ => ?_
  obtain ⟨t, v⟩ := r
  refine (Semantics.agree_yields hd he hf hg v).bind fun r hr => ?_
  obtain ⟨same, w⟩ := r
  have hs' : Session.Ready { s with values := w } := ⟨hs.pair, hs.single⟩
  cases same with
  | false => exact .ok hr
  | true =>
    have heq : f.Equivalent g := hr.mp rfl
    simp only [Bool.not_true, Bool.false_eq_true, ↓reduceIte]
    split
    · exact .ok (iff_of_true rfl heq)
    · obtain ⟨r, ha, hr⟩ := attempt_yields hm hs' hf.wellFormed hg.wellFormed passes t
      exact ⟨r, ha, iff_of_true hr heq⟩

/-- What the judgement has to come to when two texts are read with these results: the first text
that cannot be read is the problem, and formulas are equivalent or not. -/
def Settles : Except ParseError Formula → Except ParseError Formula → Outcome Verdict → Prop
  | .error e, _, o => o = .failure (unreadable 1 e)
  | .ok _, .error e, o => o = .failure (unreadable 2 e)
  | .ok f, .ok g, o => ∃ v, o = .success v none ∧ (v.equivalent = true ↔ f.Equivalent g)

section

variable {r1 r2 : Except ParseError Formula} {o : Outcome Verdict}

/-- A problem names the first text that cannot be read. -/
theorem Settles.failure_iff (h : Settles r1 r2 o) :
    ((∃ p, o = .failure p ∧ p.code = "PARSE_ERROR" ∧ p.field = some "proposition1") ↔
      ∃ e, r1 = .error e) ∧
    ((∃ p, o = .failure p ∧ p.code = "PARSE_ERROR" ∧ p.field = some "proposition2") ↔
      (∃ f, r1 = .ok f) ∧ ∃ e, r2 = .error e) := by
  have hfield1 (e : ParseError) : (unreadable 1 e).field = some "proposition1" := rfl
  have hfield2 (e : ParseError) : (unreadable 2 e).field = some "proposition2" := rfl
  match r1, r2, h with
  | .error e, _, h =>
    subst h
    exact ⟨iff_of_true ⟨_, rfl, rfl, hfield1 e⟩ ⟨e, rfl⟩, by simp [hfield1]⟩
  | .ok f, .error e, h =>
    subst h
    exact ⟨by simp [hfield2], iff_of_true ⟨_, rfl, rfl, hfield2 e⟩ ⟨⟨f, rfl⟩, e, rfl⟩⟩
  | .ok f, .ok g, ⟨v, hv, _⟩ => simp [hv]

theorem Settles.equivalent_eq {v v' : Verdict} {m m' : Option String}
    (h : Settles r1 r2 (.success v m)) (h' : Settles r1 r2 (.success v' m')) :
    v.equivalent = v'.equivalent := by
  match r1, r2, h, h' with
  | .ok f, .ok g, ⟨u, hu, hv⟩, ⟨u', hu', hv'⟩ =>
    cases hu
    cases hu'
    exact Bool.eq_iff_iff.mpr (hv.trans hv'.symm)

end

theorem ofTexts_yields (hm : method ∈ methods) (hs : s.Ready) (passes : Nat)
    (text1 text2 : String) : Yields (ofTexts method passes text1 text2 s) fun r =>
      Settles (Formula.parse 0 text1) (Formula.parse 1 text2) r.1 := by
  unfold ofTexts Formula.parse
  cases hf : Formula.read 0 text1 with
  | error p => exact .ok rfl
  | ok fd =>
    obtain ⟨f, d⟩ := fd
    cases hg : Formula.read 1 text2 with
    | error p => exact .ok rfl
    | ok ge =>
      obtain ⟨g, e⟩ := ge
      have hrf := Formula.readWith_of_read hf
      have hrg := Formula.readWith_of_read hg
      have hs' : s.forget.Ready := ⟨hs.pair, hs.single⟩
      exact (judge_yields hm hs' hrf.describes hrg.describes hrf.legible.proper
        hrg.legible.proper passes).bind fun r hr => .ok ⟨r.1, rfl, hr⟩

/-- The judgement on two texts is never left open. It is a problem with the first text that cannot
be read, and otherwise it says whether the two formulas have the same value under every valuation
of names. Method, bound, advice and chance have no part in that. -/
theorem ofTexts_settles (passes : Nat) (text1 text2 : String) (hm : method ∈ methods)
    (hs : s.Ready) :
    (∃ o s', ofTexts method passes text1 text2 s = .ok (o, s') ∧
      Settles (Formula.parse 0 text1) (Formula.parse 1 text2) o ∧
      ((∃ p, o = .failure p ∧ p.code = "PARSE_ERROR" ∧ p.field = some "proposition1") ↔
        ∃ e, Formula.parse 0 text1 = .error e) ∧
      ((∃ p, o = .failure p ∧ p.code = "PARSE_ERROR" ∧ p.field = some "proposition2") ↔
        (∃ f, Formula.parse 0 text1 = .ok f) ∧ ∃ e, Formula.parse 1 text2 = .error e)) ∧
    ∀ {δ : Type} [Source δ], ∀ method' ∈ methods, ∀ (passes' : Nat) (t : Session δ), t.Ready →
      ∀ v v' m m' s' t',
      ofTexts method passes text1 text2 s = .ok (.success v m, s') →
      ofTexts method' passes' text1 text2 t = .ok (.success v' m', t') →
      v.equivalent = v'.equivalent := by
  obtain ⟨⟨o, s'⟩, ho, hsettles⟩ := ofTexts_yields hm hs passes text1 text2
  refine ⟨⟨o, s', ho, hsettles, hsettles.failure_iff⟩, ?_⟩
  intro δ _ method' hm' passes' t ht v v' m m' u t' hv hv'
  obtain ⟨⟨o', _⟩, ho', hsettles'⟩ := ofTexts_yields hm' ht passes' text1 text2
  rw [ho] at hv
  rw [ho'] at hv'
  cases hv
  cases hv'
  exact hsettles.equivalent_eq hsettles'

theorem ofTexts_settles_contraposition :
    let s : Session Chance :=
      .start ⟨7⟩ (some (.trained 34 fun _ => 14)) (some (.trained 17 fun _ => 0))
    ProofMethod.absurd ∈ methods ∧ s.Ready ∧
      (∃ v s', ofTexts .absurd 5 "p -> q" "~q => !p" s = .ok (.success v none, s') ∧
        v.equivalent = true) ∧
      ∃ p s', ofTexts .absurd 5 "p -> q" "q ~ p" s = .ok (.failure p, s') ∧
        p.field = some "proposition2" := by
  intro s
  have hm : ProofMethod.absurd ∈ methods := by decide
  have hs : s.Ready := ⟨⟨_, rfl, nofun⟩, nofun⟩
  have hf : Formula.parse 0 "p -> q" = .ok (.imp (.var ⟨0, 0, "p"⟩) (.var ⟨0, 1, "q"⟩)) := by cbv
  refine ⟨hm, hs, ?_, ?_⟩
  · obtain ⟨⟨o, s', ho, hsettles, -⟩, -⟩ := ofTexts_settles 5 "p -> q" "~q => !p" hm hs
    have hg : Formula.parse 1 "~q => !p" =
        .ok (.imp (.neg (.var ⟨1, 0, "q"⟩)) (.neg (.var ⟨1, 1, "p"⟩))) := by cbv
    rw [hf, hg] at hsettles
    obtain ⟨v, rfl, hv⟩ := hsettles
    refine ⟨v, s', ho, hv.mpr fun u => ?_⟩
    simp only [Formula.holds]
    cases u "p" <;> cases u "q" <;> rfl
  · obtain ⟨⟨o, s', ho, -, -, hsecond⟩, -⟩ := ofTexts_settles 5 "p -> q" "q ~ p" hm hs
    have hg : Formula.parse 1 "q ~ p" = .error (.trailing (some .not)) := by cbv
    obtain ⟨p, rfl, -, hp⟩ := hsecond.mpr ⟨⟨_, hf⟩, _, hg⟩
    exact ⟨p, s', ho, hp⟩

end LogicTutor.Verdict
