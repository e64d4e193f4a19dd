import Mathlib.Data.List.Forall2
import Formulas.Proofs.Environment.Growth
import Formulas.Proofs.Expr.Outline
import Formulas.Proofs.Parser.WellFormed

/-!
# Parsing in a larger environment

What is registered beside the names that are known changes what a text is read as only in what is
said of its names: the text is still read, with the same outline, and with the same type unless
nothing was known of it. The larger environment finds chains of properties that the smaller one did
not, so the two trees are not the same node by node; the outline is what both runs share.

## Main definitions

* `Expr.RefinedBy`: more is said of the names of an expression.

## Main results

* `Context.Joins.refines` and `Context.called_refines`: dots and calls take what refines their
  operands, and make a refinement;
* `Grammar.Derives.refines`: so does every rule of the grammar;
* `Expr.exists_parse_of_growsTo`: a text that is read is read in every larger environment.
-/

namespace Formulas

/-- The type of an arithmetic result stays when more is known of the operands. -/
theorem ValueType.arithmetic_eq {left left' right right' : ValueType}
    (hleft : left ≠ .object → left' = left) (hright : right ≠ .object → right' = right)
    (h : arithmetic left right ≠ .object) : arithmetic left' right' = arithmetic left right := by
  unfold arithmetic at h ⊢
  split at h
  next hnumber =>
    obtain ⟨rfl, rfl⟩ := hnumber
    rw [hleft (by decide), hright (by decide)]
  next => exact absurd rfl h

/-- The type of a binary node stays when more is known of the operands. -/
theorem BinaryOp.valueType_eq (op : BinaryOp) {left left' right right' : ValueType}
    (hleft : left ≠ .object → left' = left) (hright : right ≠ .object → right' = right)
    (h : op.valueType left right ≠ .object) :
    op.valueType left' right' = op.valueType left right := by
  cases op with
  | add =>
    simp only [valueType] at h ⊢
    by_cases hstring : left = .string ∨ right = .string
    · have hstring' : left' = .string ∨ right' = .string := by
        refine hstring.imp ?_ ?_
        · rintro rfl
          exact hleft (by decide)
        · rintro rfl
          exact hright (by decide)
      rw [if_pos hstring, if_pos hstring']
    · rw [if_neg hstring] at h ⊢
      -- both operands are numbers, in the larger environment too
      unfold ValueType.arithmetic at h
      split at h
      next hnumber =>
        obtain ⟨rfl, rfl⟩ := hnumber
        rw [hleft (by decide), hright (by decide)]
        rfl
      next => exact absurd rfl h
  | subtract | multiply | divide | power => exact ValueType.arithmetic_eq hleft hright h
  | _ => rfl

/-- The type of a prefix operation stays when more is known of the operand. -/
theorem UnaryOp.valueType_eq (op : UnaryOp) {operand operand' : ValueType}
    (hoperand : operand ≠ .object → operand' = operand) (h : op.valueType operand ≠ .object) :
    op.valueType operand' = op.valueType operand := by
  cases op with
  | not => rfl
  | negate =>
    simp only [valueType] at h ⊢
    split at h
    next hnumber =>
      subst hnumber
      rw [hoperand (by decide)]
    next => exact absurd rfl h

namespace Expr

/-- The type of an expression does not depend on its unit. -/
theorem valueType_withUnit (kind : Kind) (unit unit' : Option String) :
    valueType ⟨kind, unit⟩ = valueType ⟨kind, unit'⟩ := by
  -- only the type of a first element depends on what kind of node is below
  cases kind with
  | first child =>
    obtain ⟨child, unit⟩ := child
    cases child with
    | array items => cases items <;> simp [valueType]
    | _ => simp [valueType]
  | _ => simp [valueType]

/-- More is said of the names of the expression, and of what follows from it: the outline is the
same, a variable is still that variable, and a type that is known stays. -/
structure RefinedBy (e e' : Expr) : Prop where
  outline_eq : e'.outline = e.outline
  exists_var : ∀ name type, e.kind = .var name type → ∃ type', e'.kind = .var name type'
  valueType_eq : e.valueType ≠ .object → e'.valueType = e.valueType

namespace RefinedBy

theorem refl (e : Expr) : e.RefinedBy e := ⟨rfl, fun _ type h => ⟨type, h⟩, fun _ => rfl⟩

variable {e e' left left' right right' : Expr} {es es' : List Expr}

/-- A refinement is one with any unit on both sides. -/
theorem withUnit (h : e.RefinedBy e') (unit : Option String) :
    RefinedBy ⟨e.kind, unit⟩ ⟨e'.kind, unit⟩ := by
  obtain ⟨kind, unit₁⟩ := e
  obtain ⟨kind', unit₂⟩ := e'
  refine ⟨?_, h.exists_var, ?_⟩
  · rw [outline, outline]
    exact congrArg (Expr.mk · unit) (outline_kind_eq h.outline_eq)
  · rw [valueType_withUnit kind unit unit₁, valueType_withUnit kind' unit unit₂]
    exact h.valueType_eq

/-- A node that is no variable is refined by one with the same outline that keeps its type. -/
theorem of_kind {kind kind' : Kind} (houtline : kind'.outline = kind.outline)
    (hvar : ∀ name type, kind ≠ .var name type)
    (htype : kind.bare.valueType ≠ .object → kind'.bare.valueType = kind.bare.valueType) :
    kind.bare.RefinedBy kind'.bare := by
  refine ⟨?_, fun name type h => absurd h (hvar name type), htype⟩
  rw [Kind.bare, Kind.bare, outline, outline, houtline]

/-- Lists of which each item refines the other have the same outlines. -/
theorem outlines_eq (h : List.Forall₂ RefinedBy es es') : outlines es' = outlines es := by
  induction h with
  | nil => rfl
  | cons h _ ih => rw [outlines, outlines, h.outline_eq, ih]

theorem binary (op : BinaryOp) (hleft : left.RefinedBy left') (hright : right.RefinedBy right') :
    (Kind.binary op left right).bare.RefinedBy (Kind.binary op left' right').bare := by
  refine of_kind ?_ (by simp) ?_
  · rw [Kind.outline, Kind.outline, hleft.outline_eq, hright.outline_eq]
  · simp only [Kind.bare, valueType]
    exact op.valueType_eq hleft.valueType_eq hright.valueType_eq

theorem unary (op : UnaryOp) (h : e.RefinedBy e') :
    (Kind.unary op e).bare.RefinedBy (Kind.unary op e').bare := by
  refine of_kind ?_ (by simp) ?_
  · rw [Kind.outline, Kind.outline, h.outline_eq]
  · simp only [Kind.bare, valueType]
    exact op.valueType_eq h.valueType_eq

theorem union (h : List.Forall₂ RefinedBy es es') :
    (Kind.union es).bare.RefinedBy (Kind.union es').bare :=
  of_kind (by rw [Kind.outline, Kind.outline, outlines_eq h]) (by simp) fun _ => rfl

theorem array (h : List.Forall₂ RefinedBy es es') :
    (Kind.array es).bare.RefinedBy (Kind.array es').bare :=
  of_kind (by rw [Kind.outline, Kind.outline, outlines_eq h]) (by simp) fun _ => rfl

theorem tuple (h : List.Forall₂ RefinedBy es es') :
    (Kind.tuple es).bare.RefinedBy (Kind.tuple es').bare :=
  of_kind (by rw [Kind.outline, Kind.outline, outlines_eq h]) (by simp) fun _ => rfl

theorem failed (h : List.Forall₂ RefinedBy es es') :
    (Kind.failed es).bare.RefinedBy (Kind.failed es').bare :=
  of_kind (by rw [Kind.outline, Kind.outline, outlines_eq h]) (by simp)
    fun _ => by simp [Kind.bare, valueType]

theorem reduce (reducer : Reducer) (h : e.RefinedBy e') :
    (Kind.reduce reducer e).bare.RefinedBy (Kind.reduce reducer e').bare :=
  of_kind (by rw [Kind.outline, Kind.outline, h.outline_eq]) (by simp)
    fun _ => by simp [Kind.bare, valueType]

theorem each {collection collection' body body' : Expr}
    (hcollection : collection.RefinedBy collection') (name : String)
    (hbody : body.RefinedBy body') :
    (Kind.each collection name body).bare.RefinedBy (Kind.each collection' name body').bare :=
  of_kind (by rw [Kind.outline, Kind.outline, hcollection.outline_eq, hbody.outline_eq]) (by simp)
    fun _ => rfl

/-- The type of a choice is that of its branches if they have the same, so it stays if both do. -/
theorem ternary {condition condition' : Expr} (hcondition : condition.RefinedBy condition')
    (hleft : left.RefinedBy left') (hright : right.RefinedBy right') :
    (Kind.ternary condition left right).bare.RefinedBy
      (Kind.ternary condition' left' right').bare := by
  refine of_kind ?_ (by simp) fun htype => ?_
  · simp only [Kind.outline, hcondition.outline_eq, hleft.outline_eq, hright.outline_eq]
  · simp only [Kind.bare, valueType] at htype ⊢
    split at htype
    next heq => rw [hleft.valueType_eq htype, hright.valueType_eq (heq ▸ htype)]
    next => exact absurd rfl htype

/-- The first of several operands has the type of the first of them. -/
theorem first (h : List.Forall₂ RefinedBy es es') :
    (Kind.first (Kind.array es).bare).bare.RefinedBy (Kind.first (Kind.array es').bare).bare := by
  refine of_kind ?_ (by simp) fun htype => ?_
  · simp only [Kind.outline, Kind.bare, outline, outlines_eq h]
  · cases h with
    | nil => exact absurd rfl htype
    | cons h _ =>
      simp only [Kind.bare, valueType] at htype ⊢
      exact h.valueType_eq htype

theorem temporal (function : TemporalFunction) (h : e.RefinedBy e')
    {period period' start start' measure measure' : Option Expr}
    (hperiod : period'.map outline = period.map outline)
    (hstart : start'.map outline = start.map outline)
    (hmeasure : measure'.map outline = measure.map outline) :
    (Kind.temporal function e period start measure).bare.RefinedBy
      (Kind.temporal function e' period' start' measure').bare := by
  refine of_kind ?_ (by simp) fun _ => by simp [Kind.bare, valueType]
  simp only [Kind.outline, outlineOption_eq_map, h.outline_eq, hperiod, hstart, hmeasure]

theorem timer (h : e.RefinedBy e') {measure measure' : Option Expr}
    (hmeasure : measure'.map outline = measure.map outline) :
    (Kind.timer e measure).bare.RefinedBy (Kind.timer e' measure').bare := by
  refine of_kind ?_ (by simp) fun _ => by simp [Kind.bare, valueType]
  simp only [Kind.outline, outlineOption_eq_map, h.outline_eq, hmeasure]

end RefinedBy

end Expr

/-- The outline of a literal is the literal, and of nothing else. -/
theorem Kind.outline_eq_constant_iff {kind : Kind} {c : Constant} :
    kind.outline = .constant c ↔ kind = .constant c := by
  cases kind with
  | property base name type =>
    rw [outline]
    split <;> simp
  | _ => simp [outline]

/-- Expressions of one outline are literals alike. -/
theorem Expr.kind_eq_constant_iff {e e' : Expr} (h : e'.outline = e.outline) (c : Constant) :
    e'.kind = .constant c ↔ e.kind = .constant c := by
  rw [← Kind.outline_eq_constant_iff, outline_kind_eq h, Kind.outline_eq_constant_iff]

namespace Builtin

open Formulas.Expr (RefinedBy)

variable {arguments arguments' : List Expr} {kind : Kind}

/-- Whether an expression is an integer shows in its outline. -/
theorem integer?_eq_of_outline_eq {e e' : Expr} (h : e'.outline = e.outline) :
    integer? e' = integer? e := by
  unfold integer?
  split
  next x hx => rw [(Expr.kind_eq_constant_iff h _).1 hx]
  next hnone =>
    split
    next x hx => exact absurd ((Expr.kind_eq_constant_iff h _).2 hx) (hnone x)
    next => rfl

/-- The parts of a date-time show in the outlines. -/
theorem dateTimeParts?_eq (h : List.Forall₂ RefinedBy arguments arguments') :
    dateTimeParts? arguments' = dateTimeParts? arguments := by
  have hmapM : arguments'.mapM integer? = arguments.mapM integer? := by
    induction h with
    | nil => rfl
    | cons h _ ih =>
      simp only [List.mapM_cons, integer?_eq_of_outline_eq h.outline_eq, ih]
  rw [dateTimeParts?, dateTimeParts?, hmapM]

theorem onlyText?_eq_some_iff {text : String} :
    onlyText? arguments = some text ↔ ∃ e, arguments = [e] ∧ e.kind = .constant (.string text) := by
  unfold onlyText?
  constructor
  · intro h
    split at h
    next text' unit =>
      cases h
      exact ⟨_, rfl, rfl⟩
    next => cases h
  · rintro ⟨⟨kind, unit⟩, rfl, rfl⟩
    rfl

/-- A text that is the only argument shows in the outline. -/
theorem onlyText?_eq (h : List.Forall₂ RefinedBy arguments arguments') :
    onlyText? arguments' = onlyText? arguments := by
  refine Option.ext fun text => ?_
  rw [onlyText?_eq_some_iff, onlyText?_eq_some_iff]
  constructor
  · rintro ⟨e', rfl, he'⟩
    obtain _ | ⟨hrefined, ⟨⟩⟩ := h
    exact ⟨_, rfl, (Expr.kind_eq_constant_iff hrefined.outline_eq _).1 he'⟩
  · rintro ⟨e, rfl, he⟩
    obtain _ | ⟨hrefined, ⟨⟩⟩ := h
    exact ⟨_, rfl, (Expr.kind_eq_constant_iff hrefined.outline_eq _).2 he⟩

/-- A temporal function takes what refines its arguments. -/
theorem buildTemporal_refines {function : TemporalFunction}
    (h : List.Forall₂ RefinedBy arguments arguments')
    (hbuild : buildTemporal function arguments = .ok kind) :
    ∃ kind', buildTemporal function arguments' = .ok kind' ∧ kind.bare.RefinedBy kind'.bare := by
  unfold buildTemporal at hbuild
  split at hbuild <;> cases hbuild
  next =>
    obtain _ | ⟨hchild, ⟨⟩⟩ := h
    exact ⟨_, rfl, RefinedBy.temporal function hchild rfl rfl rfl⟩
  next =>
    obtain _ | ⟨hchild, _ | ⟨hperiod, ⟨⟩⟩⟩ := h
    exact ⟨_, rfl, RefinedBy.temporal function hchild (by simp [hperiod.outline_eq]) rfl rfl⟩
  next =>
    obtain _ | ⟨hchild, _ | ⟨hperiod, _ | ⟨hstart, ⟨⟩⟩⟩⟩ := h
    exact ⟨_, rfl, RefinedBy.temporal function hchild (by simp [hperiod.outline_eq])
      (by simp [hstart.outline_eq]) rfl⟩
  next =>
    obtain _ | ⟨hchild, _ | ⟨hperiod, _ | ⟨hstart, _ | ⟨hmeasure, ⟨⟩⟩⟩⟩⟩ := h
    exact ⟨_, rfl, RefinedBy.temporal function hchild (by simp [hperiod.outline_eq])
      (by simp [hstart.outline_eq]) (by simp [hmeasure.outline_eq])⟩

/-- A built-in function takes what refines its arguments, and makes a refinement. -/
theorem build_refines {f : Builtin} (h : List.Forall₂ RefinedBy arguments arguments')
    (hbuild : f.build arguments = .ok kind) :
    ∃ kind', f.build arguments' = .ok kind' ∧ kind.bare.RefinedBy kind'.bare := by
  have hempty : arguments'.isEmpty = arguments.isEmpty := by cases h <;> rfl
  cases f <;> simp only [build] at hbuild ⊢
  case reducer r =>
    split at hbuild
    next child =>
      cases hbuild
      obtain _ | ⟨hchild, ⟨⟩⟩ := h
      exact ⟨_, rfl, hchild.reduce r⟩
    next hne =>
      -- a number of arguments other than one is for the temporal function of the same name
      obtain ⟨kind', hkind', hrefined⟩ := buildTemporal_refines h hbuild
      refine ⟨kind', ?_, hrefined⟩
      split
      next child' =>
        obtain _ | ⟨-, ⟨⟩⟩ := h
        exact absurd rfl (hne _)
      next => exact hkind'
  case temporal => exact buildTemporal_refines h hbuild
  case dateTime | dateTimeOffset =>
    -- a date-time is made of literals alone, which the outline keeps
    rw [buildDateTime] at hbuild ⊢
    rw [onlyText?_eq h, dateTimeParts?_eq h]
    exact ⟨kind, hbuild, .refl _⟩
  case deltaTime =>
    split at hbuild <;> cases hbuild
    next =>
      obtain _ | ⟨hchild, ⟨⟩⟩ := h
      exact ⟨_, rfl, RefinedBy.temporal .deltaTime hchild rfl rfl rfl⟩
    next =>
      obtain _ | ⟨hchild, _ | ⟨hmeasure, ⟨⟩⟩⟩ := h
      exact ⟨_, rfl,
        RefinedBy.temporal .deltaTime hchild rfl rfl (by simp [hmeasure.outline_eq])⟩
  case timer =>
    split at hbuild <;> cases hbuild
    next =>
      obtain _ | ⟨hchild, ⟨⟩⟩ := h
      exact ⟨_, rfl, hchild.timer rfl⟩
    next =>
      obtain _ | ⟨hchild, _ | ⟨hmeasure, ⟨⟩⟩⟩ := h
      exact ⟨_, rfl, hchild.timer (by simp [hmeasure.outline_eq])⟩
  case failed =>
    have hfailed := RefinedBy.failed h
    split at hbuild <;> cases hbuild
    next =>
      obtain _ | ⟨-, ⟨⟩⟩ := h
      exact ⟨_, rfl, hfailed⟩
    next =>
      obtain _ | ⟨-, _ | ⟨-, ⟨⟩⟩⟩ := h
      exact ⟨_, rfl, hfailed⟩
  case each =>
    split at hbuild <;> cases hbuild
    next collection name type unit body =>
      obtain _ | ⟨hcollection, _ | @⟨_, ⟨kind', unit'⟩, _, _, hvar, _ | ⟨hbody, ⟨⟩⟩⟩⟩ := h
      -- what was a variable is still one, so the iteration keeps its name
      obtain ⟨type', rfl⟩ : ∃ type', kind' = .var name type' := hvar.exists_var name type rfl
      exact ⟨_, rfl, hcollection.each name hbody⟩
  case first =>
    split at hbuild <;> cases hbuild
    next hne =>
      exact ⟨.first (Kind.array arguments').bare, by rw [hempty, if_neg hne], .first h⟩
  case ternary =>
    split at hbuild <;> cases hbuild
    obtain _ | ⟨hcondition, _ | ⟨hpositive, _ | ⟨hnegative, ⟨⟩⟩⟩⟩ := h
    exact ⟨_, rfl, hcondition.ternary hpositive hnegative⟩
  case tuple =>
    split at hbuild <;> cases hbuild
    next hne =>
      exact ⟨.tuple arguments', by rw [hempty, if_neg hne], .tuple h⟩
  case union =>
    split at hbuild <;> cases hbuild
    next hne =>
      exact ⟨.union arguments', by rw [hempty, if_neg hne], .union h⟩

end Builtin

namespace Context

open Formulas.Expr (RefinedBy)

variable {env env' : Environment}

/-- What a name means is refined in a larger environment. -/
theorem named_refines (hgrows : env.GrowsTo env') (name : String) :
    ((standard env).named name).RefinedBy ((standard env').named name) := by
  unfold named
  cases literal? name with
  | some e => exact .refl e
  | none =>
    refine ⟨?_, fun n type h => ?_, fun htype => ?_⟩
    · simp [Kind.bare, Expr.outline, Kind.outline]
    · cases h
      exact ⟨_, rfl⟩
    · simp only [Option.getD_none, Kind.bare, Expr.valueType, standard, Environment.variableType]
        at htype ⊢
      cases hknown : env.variableType? name with
      | none => exact absurd (by rw [hknown]; rfl) htype
      | some type => rw [hgrows.variableType?_eq hknown]

/-- A call takes what refines its arguments, and means a refinement. -/
theorem called_refines (hgrows : env.GrowsTo env') {name : String}
    {arguments arguments' : List Expr} (h : List.Forall₂ RefinedBy arguments arguments') {e : Expr}
    (hcalled : (standard env).called name arguments = .ok e) :
    ∃ e', (standard env').called name arguments' = .ok e' ∧ e.RefinedBy e' := by
  unfold called at hcalled ⊢
  split at hcalled
  next f hf =>
    have hf' : (standard env').registry.get? name = some f := hf
    simp only [hf']
    split at hcalled
    next kind hbuild =>
      cases hcalled
      obtain ⟨kind', hbuild', hrefined⟩ := Builtin.build_refines h hbuild
      exact ⟨kind'.bare, by rw [hbuild'], hrefined⟩
    next => cases hcalled
  next hnone =>
    have hnone' : (standard env').registry.get? name = none := hnone
    cases hcalled
    simp only [hnone']
    refine ⟨_, rfl, .of_kind ?_ (by simp) fun htype => ?_⟩
    · rw [Kind.outline, Kind.outline, RefinedBy.outlines_eq h]
    · simp only [Kind.bare, Expr.valueType, resultType?, standard, ← h.length_eq] at htype ⊢
      cases hknown : env.resultType? name arguments.length with
      | none => exact absurd (by rw [hknown]; rfl) htype
      | some type => rw [hgrows.resultType?_eq hknown]

/-- A chain that is collapsed in a larger environment refines what it was, since it has no type of
its own. -/
theorem collapse_refines (hgrows : env.GrowsTo env') {chain chain' : Expr}
    (houtline : chain'.outline = chain.outline) (hvar : ∀ name type, chain.kind ≠ .var name type)
    (htype : chain.valueType = .object) :
    ((standard env).collapse chain).RefinedBy ((standard env').collapse chain') := by
  have houtline' : ((standard env').collapse chain').outline =
      ((standard env).collapse chain).outline := by
    rw [outline_collapse, outline_collapse, houtline]
  obtain ⟨path, type, hpath, hknown, heq⟩ | ⟨-, heq⟩ := collapse_cases (standard env) chain
  · -- the variable is known in the larger environment too
    have hknown' : (standard env').environment.variableType? path = some type :=
      hgrows.variableType?_eq hknown
    have heq' : (standard env').collapse chain' = (Kind.var path type).bare := by
      rw [collapse, pathOf?_eq_of_outline_eq houtline, hpath]
      simp only [hknown']
    rw [heq, heq']
    exact .refl _
  · refine ⟨houtline', fun name type h => ?_, fun h => ?_⟩
    · rw [heq] at h
      exact absurd h (hvar name type)
    · rw [heq] at h
      exact absurd htype h

/-- A dot takes what refines its sides, and makes a refinement, units on the right apart. -/
theorem Joins.refines (hgrows : env.GrowsTo env') {left left' right right' : Expr}
    (hleft : left.RefinedBy left') (hright : right.RefinedBy right')
    (hproperty : ∀ base name type, right.kind = .property base name type → type = .object)
    {kind : Kind} (h : Joins (standard env) left right.kind kind) :
    ∃ kind', Joins (standard env') left' right'.kind kind' ∧ kind.bare.RefinedBy kind'.bare := by
  obtain ⟨right, unit⟩ := right
  obtain ⟨right', unit'⟩ := right'
  -- the outlines of the sides agree, and with them their names
  have hpathOf : pathOf? left' = pathOf? left := pathOf?_eq_of_outline_eq hleft.outline_eq
  have hkind : right'.outline = right.outline := Expr.outline_kind_eq hright.outline_eq
  dsimp only at h hproperty
  cases h with
  | name name type =>
    obtain ⟨type', rfl⟩ : ∃ type', right' = .var name type' := hright.exists_var name type rfl
    refine ⟨_, .name name type', RefinedBy.withUnit ?_ none⟩
    refine collapse_refines hgrows ?_ (by simp [Kind.bare]) rfl
    simp only [Kind.bare, Expr.outline, Kind.outline, hpathOf, hleft.outline_eq]
  | @chain path hpath base name type =>
    obtain rfl := hproperty base name type rfl
    have hpath' : pathOf? left' = some path := hpathOf.trans hpath
    have houtline : (Expr.graft left' right'.bare).outline =
        (Expr.graft left (Kind.property base name .object).bare).outline := by
      rw [outline_graft hpath', outline_graft hpath, Kind.bare, Kind.bare, Expr.outline,
        Expr.outline, hkind]
    have hrefined := collapse_refines hgrows houtline (by simp [Kind.bare, Expr.graft]) rfl
    -- the larger environment can know the chain on the right as a variable
    cases right' with
    | var name' type' => exact ⟨_, .name name' type', hrefined.withUnit none⟩
    | property base' name' type' =>
      exact ⟨_, .chain hpath' base' name' type', hrefined.withUnit none⟩
    | _ =>
      rw [Kind.outline, Kind.outline] at hkind
      split at hkind <;> cases hkind
  | @call path hpath name type result arguments hresult =>
    cases right' with
    | call name' type' arguments' =>
      simp only [Kind.outline, Kind.call.injEq] at hkind
      obtain ⟨rfl, -, harguments⟩ := hkind
      -- the call has the same number of arguments, so the same function is asked
      have hlength : arguments'.length = arguments.length := by
        simpa [Expr.outlines_eq_map] using congrArg List.length harguments
      have hresult' :
          (standard env').resultType? (path ++ "." ++ name') arguments' = some result := by
        rw [resultType?, hlength]
        exact hgrows.resultType?_eq hresult
      refine ⟨_, .call (hpathOf.trans hpath) hresult', .of_kind ?_ (by simp) fun _ => rfl⟩
      rw [Kind.outline, Kind.outline, harguments]
    | property base' name' type' =>
      rw [Kind.outline, Kind.outline] at hkind
      split at hkind <;> cases hkind
    | _ =>
      rw [Kind.outline, Kind.outline] at hkind
      cases hkind

/-- A dot takes what refines its sides, and makes a refinement. -/
theorem dot_refines (hgrows : env.GrowsTo env') {left left' right right' e : Expr}
    (hleft : left.RefinedBy left') (hright : right.RefinedBy right')
    (hproperty : ∀ base name type, right.kind = .property base name type → type = .object)
    (h : (standard env).dot left right = .ok e) :
    ∃ e', (standard env').dot left' right' = .ok e' ∧ e.RefinedBy e' := by
  obtain ⟨hjoins, hunit⟩ := dot_eq_ok_iff.1 h
  obtain ⟨kind, unit⟩ := e
  obtain ⟨kind', hjoins', hrefined⟩ := hjoins.refines hgrows hleft hright hproperty
  have hunit' : unit = right'.unit :=
    hunit.trans (Expr.unit_eq_of_outline_eq hright.outline_eq).symm
  exact ⟨⟨kind', unit⟩, dot_eq_ok_iff.2 ⟨hjoins', hunit'⟩, hrefined.withUnit unit⟩

end Context

namespace Grammar

open Formulas.Expr (RefinedBy)

variable {env env' : Environment}

/-- Items that have refinements in another context have them all together. -/
theorem exists_items_refines {ctx : Context} {items : List (List Token × Expr)}
    (h : ∀ i ∈ items, ∃ e', Derives ctx 1 i.1 e' ∧ i.2.RefinedBy e') :
    ∃ items' : List (List Token × Expr), items'.map Prod.fst = items.map Prod.fst ∧
      (∀ i ∈ items', Derives ctx 1 i.1 i.2) ∧
      List.Forall₂ RefinedBy (items.map Prod.snd) (items'.map Prod.snd) := by
  -- the refinements are chosen item by item, so that the tokens stay aligned with them
  induction items with
  | nil => exact ⟨[], rfl, by simp, .nil⟩
  | cons i items ih =>
    rw [List.forall_mem_cons] at h
    obtain ⟨⟨e', hderives, hrefined⟩, hrest⟩ := h
    obtain ⟨items', hfst, hall, hforall⟩ := ih hrest
    refine ⟨(i.1, e') :: items', by simp [hfst], ?_, .cons hrefined hforall⟩
    rw [List.forall_mem_cons]
    exact ⟨hderives, hall⟩

/-- What written tokens mean is refined in a larger environment. -/
theorem Derives.refines (hgrows : env.GrowsTo env') {p : Nat} {ts : List Token} {e : Expr}
    (h : Derives (.standard env) p ts e) (hts : ∀ t ∈ ts, t.Written) :
    ∃ e', Derives (.standard env') p ts e' ∧ e.RefinedBy e' := by
  have hitems : ∀ {items : List (List Token × Expr)},
      (∀ t ∈ Token.separated (items.map Prod.fst), t.Written) →
      (∀ i ∈ items, (∀ t ∈ i.1, t.Written) →
        ∃ e', Derives (.standard env') 1 i.1 e' ∧ i.2.RefinedBy e') →
      ∀ i ∈ items, ∃ e', Derives (.standard env') 1 i.1 e' ∧ i.2.RefinedBy e' :=
    fun hwritten hall i hi => hall i hi fun t ht =>
      hwritten t ((Token.infix_separated (List.mem_map_of_mem hi)).subset ht)
  induction h with
  | tighter _ ih =>
    obtain ⟨e', hderives, hrefined⟩ := ih hts
    exact ⟨e', .tighter hderives, hrefined⟩
  | @binary _ _ node _ _ _ _ _ hop hreads hnode _ _ ihleft ihright =>
    simp only [List.forall_mem_append, List.forall_mem_cons] at hts
    obtain ⟨left', hleft, hrefinedleft⟩ := ihleft hts.1
    obtain ⟨right', hright, hrefinedright⟩ := ihright hts.2.2
    exact ⟨_, .binary hop hreads hnode hleft hright, .binary node hrefinedleft hrefinedright⟩
  | union _ _ ihleft ihright =>
    simp only [List.forall_mem_append, List.forall_mem_cons] at hts
    obtain ⟨left', hleft, hrefinedleft⟩ := ihleft hts.1
    obtain ⟨right', hright, hrefinedright⟩ := ihright hts.2.2
    exact ⟨_, .union hleft hright, .union (.cons hrefinedleft (.cons hrefinedright .nil))⟩
  | dot _ hright hdot ihleft ihright =>
    simp only [List.forall_mem_append, List.forall_mem_cons] at hts
    obtain ⟨left', hleft', hrefinedleft⟩ := ihleft hts.1
    obtain ⟨right', hright', hrefinedright⟩ := ihright hts.2.2
    -- a property that is read has no type of its own, so it may become a variable of any type
    have hwf := (hright.wellFormed hts.2.2 _ (Expr.mem_nodes_self _)).kind
    obtain ⟨e', hdot', hrefined⟩ := Context.dot_refines hgrows hrefinedleft hrefinedright
      (fun base name type hkind => by
        rw [hkind] at hwf
        exact hwf.2) hdot
    exact ⟨e', .dot hleft' hright' hdot', hrefined⟩
  | @signed op _ _ _ ih =>
    rw [List.forall_mem_cons] at hts
    obtain ⟨e', hderives, hrefined⟩ := ih hts.2
    exact ⟨_, .signed hderives, hrefined.unary op⟩
  | group _ ih =>
    simp only [List.forall_mem_append, List.forall_mem_cons] at hts
    obtain ⟨e', hderives, hrefined⟩ := ih hts.2.1
    exact ⟨e', .group hderives, hrefined⟩
  | array _ ih =>
    simp only [List.forall_mem_append, List.forall_mem_cons] at hts
    obtain ⟨items', hfst, hall, hrefined⟩ := exists_items_refines (hitems hts.2.1 ih)
    rw [← hfst]
    exact ⟨_, .array hall, .array hrefined⟩
  | number x => exact ⟨_, .number x, .refl _⟩
  | string s => exact ⟨_, .string s, .refl _⟩
  | name n => exact ⟨_, .name n, Context.named_refines hgrows n⟩
  | call _ hcall ih =>
    simp only [List.forall_mem_append, List.forall_mem_cons] at hts
    obtain ⟨items', hfst, hall, hforall⟩ := exists_items_refines (hitems hts.2.2.1 ih)
    obtain ⟨e', hcall', hrefined⟩ := Context.called_refines hgrows hforall hcall
    rw [← hfst]
    exact ⟨e', .call hall hcall', hrefined⟩
  | unit _ hword ih =>
    simp only [List.forall_mem_append, List.forall_mem_cons] at hts
    obtain ⟨e', hderives, hrefined⟩ := ih hts.1
    exact ⟨_, .unit hderives hword, hrefined.withUnit _⟩

end Grammar

namespace Expr

variable {env env' : Environment}

/-- A text that is read is read in every larger environment, with the same outline and with the type
that was known. -/
theorem exists_parse_of_growsTo (hgrows : env.GrowsTo env') {text : String} {e : Expr}
    (h : Expr.parse (.standard env) text = .ok e) :
    ∃ e', Expr.parse (.standard env') text = .ok e' ∧ e'.outline = e.outline ∧
      (e.valueType ≠ .object → e'.valueType = e.valueType) := by
  obtain ⟨hfault, hformula⟩ := Grammar.Formula.of_parse h
  have hwritten : ∀ t ∈ (Scan.ofText text).tokens, t.Written :=
    fun t ht => Scanner.written_of_mem_scan ht
  have hrefines : ∃ e', Grammar.Formula (.standard env') (Scan.ofText text).tokens e' ∧
      e.RefinedBy e' := by
    generalize (Scan.ofText text).tokens = ts at hformula hwritten
    cases hformula with
    | empty => exact ⟨_, .empty, .refl _⟩
    | level hderives =>
      obtain ⟨e', hderives', hrefined⟩ := hderives.refines hgrows hwritten
      exact ⟨e', .level hderives', hrefined⟩
    | clause hderives =>
      obtain ⟨e', hderives', hrefined⟩ :=
        hderives.refines hgrows fun t ht => hwritten t (List.mem_append_left _ ht)
      exact ⟨e', .clause hderives', hrefined⟩
  obtain ⟨e', hformula', hrefined⟩ := hrefines
  exact ⟨e', hformula'.parse_eq hfault, hrefined.outline_eq, hrefined.valueType_eq⟩

/-- The variable `a.b`, once it is registered, changes nothing of the comparison of `a.b` but the
type of its left side. -/
theorem exists_parse_of_registered :
    let larger : Environment := ⟨[("a.b", .number)], []⟩
    Environment.empty.GrowsTo larger ∧ ∃ e e',
      Expr.parse (.standard .empty) "a.b == 1" = .ok e ∧
        Expr.parse (.standard larger) "a.b == 1" = .ok e' ∧ e'.outline = e.outline ∧
          e'.valueType = .boolean := by
  intro larger
  have hgrows : Environment.empty.GrowsTo larger :=
    .register (r := .binding "a.b" .number) .refl rfl
  have hread : (Expr.parse (.standard .empty) "a.b == 1").toOption.map valueType =
      some .boolean := by decide +kernel
  refine ⟨hgrows, ?_⟩
  cases hparse : Expr.parse (.standard .empty) "a.b == 1" with
  | error err =>
    rw [hparse] at hread
    cases hread
  | ok e =>
    rw [hparse] at hread
    have htype : e.valueType = .boolean := Option.some.inj hread
    obtain ⟨e', hparse', houtline, htype'⟩ := exists_parse_of_growsTo hgrows hparse
    exact ⟨e, e', rfl, hparse', houtline, (htype' (by simp [htype])).trans htype⟩

end Expr

end Formulas
