import Formulas.Expr.Tree
import Formulas.Proofs.Expr.Equality
import Formulas.Proofs.Parser.Shape

/-!
# What the JSON document of a tree says

The document of a tree tells everything about it. The kind of a node, its unit and its type are
members of its document, and so are its parts. Where two literals have the same value there, as a
text and a date-time can, or as null and an infinite number have, the type tells them apart. This
needs the shape of trees that texts are read as, in which no number has a sign.

## Main definitions

* `Json.same`: equality of JSON values, with numbers compared as values.

## Main results

* `Json.member?_ofMembers`: what is found in the document of a list of members;
* `Expr.toJson_same_self`: a document is the same as itself;
* `Expr.toJson_same_iff_of_parse`: trees that texts are read as have the same document exactly if
  they are equal.
-/

namespace Formulas

namespace Json

mutual

/-- Equality of JSON values; numbers are compared as values. -/
def same : Json → Json → Bool
  | .null, .null => true
  | .bool b, .bool b' => b == b'
  | .number x, .number x' => x.eqv x'
  | .string s, .string s' => s == s'
  | .array items, .array items' => sameItems items items'
  | .object members, .object members' => sameMembers members members'
  | _, _ => false

/-- Equality of the items of arrays. -/
def sameItems : List Json → List Json → Bool
  | [], [] => true
  | j :: js, j' :: js' => j.same j' && sameItems js js'
  | _, _ => false

/-- Equality of the members of objects, which are sorted by their keys. -/
def sameMembers : List (String × Json) → List (String × Json) → Bool
  | [], [] => true
  | (key, j) :: members, (key', j') :: members' =>
    key == key' && j.same j' && sameMembers members members'
  | _, _ => false

end

/-- Equality of what is found in objects. -/
def sameOption : Option Json → Option Json → Bool
  | none, none => true
  | some j, some j' => j.same j'
  | _, _ => false

/-- Members that are the same are the same at every key. -/
theorem sameOption_lookup {members members' : List (String × Json)}
    (h : sameMembers members members' = true) (key : String) :
    sameOption (members.lookup key) (members'.lookup key) = true := by
  induction members generalizing members' with
  | nil =>
    cases members' with
    | nil => rfl
    | cons => simp [sameMembers] at h
  | cons m members ih =>
    cases members' with
    | nil => simp [sameMembers] at h
    | cons m' members' =>
      simp only [sameMembers, Bool.and_eq_true, beq_iff_eq] at h
      obtain ⟨⟨hkey, hsame⟩, hrest⟩ := h
      rw [List.lookup_cons, List.lookup_cons, ← hkey]
      cases key == m.1
      · exact ih hrest
      · exact hsame

/-- Values that are the same have the same member at every key. -/
theorem sameOption_member? {j j' : Json} (h : j.same j' = true) (key : String) :
    sameOption (j.member? key) (j'.member? key) = true := by
  cases j <;> cases j' <;> first | rfl | simp only [same, Bool.false_eq_true] at h
  exact sameOption_lookup h key

/-- Arrays are made of the same list if their items are the same and tell what they are made of. -/
theorem eq_of_sameItems_map {α : Type} {f : α → Json} {as as' : List α}
    (h : sameItems (as.map f) (as'.map f) = true)
    (heq : ∀ a ∈ as, ∀ a' ∈ as', (f a).same (f a') = true → a = a') : as = as' := by
  induction as generalizing as' with
  | nil =>
    cases as' with
    | nil => rfl
    | cons => simp [sameItems] at h
  | cons a as ih =>
    cases as' with
    | nil => simp [sameItems] at h
    | cons a' as' =>
      simp only [List.map_cons, sameItems, Bool.and_eq_true] at h
      rw [heq a List.mem_cons_self a' List.mem_cons_self h.1, ih h.2 fun b hb b' hb' =>
        heq b (List.mem_cons_of_mem _ hb) b' (List.mem_cons_of_mem _ hb')]

/-- The first member is found at its key. -/
theorem lookup_cons_eq_ite (k : String) (m : String × Json) (members : List (String × Json)) :
    (m :: members).lookup k = if k = m.1 then some m.2 else members.lookup k := by
  rw [List.lookup_cons]
  split <;> simp_all

/-- An inserted member is found, and all others are found as before. -/
theorem lookup_insertMember (key k : String) (value : Json) (members : List (String × Json)) :
    (insertMember key value members).lookup k =
      if k = key then some value else members.lookup k := by
  induction members with
  | nil => exact lookup_cons_eq_ite k (key, value) []
  | cons m members ih =>
    obtain ⟨k', v⟩ := m
    simp only [insertMember]
    -- a member of the same key is replaced, one of a greater key is put behind
    split
    next heq =>
      subst heq
      simp only [lookup_cons_eq_ite]
      split <;> rfl
    next hne =>
      split
      · exact lookup_cons_eq_ite k (key, value) _
      · simp only [lookup_cons_eq_ite, ih]
        split
        next heq =>
          subst heq
          rw [if_neg (Ne.symm hne)]
        next => rfl

/-- What is found in an object of members is the last of them with the key. -/
theorem member?_ofMembers (key : String) (members : List (String × Json)) :
    (ofMembers members).member? key = members.reverse.lookup key := by
  have hfold : ∀ sorted, (members.foldl (fun sorted m => insertMember m.1 m.2 sorted) sorted).lookup
      key = (members.reverse.lookup key).or (sorted.lookup key) := by
    induction members with
    | nil => exact fun _ => rfl
    | cons m members ih =>
      intro sorted
      rw [List.foldl_cons, ih, lookup_insertMember, List.reverse_cons, List.lookup_append,
        lookup_cons_eq_ite, Option.or_assoc]
      split <;> rfl
  rw [ofMembers, member?, hfold]
  simp

/-- With one more member there are the one and the members before, apart from one of its key. -/
theorem mem_insertMember {key : String} {value : Json} {members : List (String × Json)}
    {m : String × Json} (h : m ∈ insertMember key value members) :
    m = (key, value) ∨ m ∈ members := by
  induction members with
  | nil => simpa [insertMember] using h
  | cons m' members ih =>
    simp only [insertMember] at h
    split at h
    next heq =>
      subst heq
      exact (List.mem_cons.1 h).imp_right (List.mem_cons_of_mem _)
    next =>
      split at h
      · exact List.mem_cons.1 h
      · rcases List.mem_cons.1 h with rfl | hmem
        · exact .inr List.mem_cons_self
        · exact (ih hmem).imp_right (List.mem_cons_of_mem _)

/-- The members of an object are among those that it is made of. -/
theorem mem_foldl_insertMember {members sorted : List (String × Json)} {m : String × Json}
    (h : m ∈ members.foldl (fun sorted m => insertMember m.1 m.2 sorted) sorted) :
    m ∈ members ∨ m ∈ sorted := by
  induction members generalizing sorted with
  | nil => exact .inr h
  | cons m' members ih =>
    rcases ih h with hmem | hmem
    · exact .inl (List.mem_cons_of_mem _ hmem)
    · rcases mem_insertMember hmem with rfl | hmem
      · exact .inl List.mem_cons_self
      · exact .inr hmem

/-- Members are the same as themselves if their values are. -/
theorem sameMembers_self {members : List (String × Json)}
    (h : ∀ m ∈ members, m.2.same m.2 = true) : sameMembers members members = true := by
  induction members with
  | nil => rfl
  | cons m members ih =>
    rw [List.forall_mem_cons] at h
    simp [sameMembers, h.1, ih h.2]

/-- Members whose values are the same as themselves make an object that is the same as itself. -/
theorem ofMembers_same_self {members : List (String × Json)}
    (h : ∀ m ∈ members, m.2.same m.2 = true) :
    (ofMembers members).same (ofMembers members) = true := by
  rw [ofMembers, same]
  exact sameMembers_self fun m hm => h m ((mem_foldl_insertMember hm).resolve_right (by simp))

end Json

/-- Different operators are written differently, apart from the two readings of `-`. -/
theorem Operator.symbol_injective {a b : Operator} (hunary : a.isUnary = b.isUnary)
    (h : a.symbol = b.symbol) : a = b := by
  have distinct : ∀ a ∈ all, ∀ b ∈ all, a.isUnary = b.isUnary → a.symbol = b.symbol → a = b := by
    decide +kernel
  exact distinct a (mem_all a) b (mem_all b) hunary h

/-- Different binary nodes are written with different signs. -/
theorem BinaryOp.symbol_injective {a b : BinaryOp}
    (h : a.operator.symbol = b.operator.symbol) : a = b := by
  have hunary : ∀ op : BinaryOp, op.operator.isUnary = false := by
    intro op
    cases op <;> rfl
  have hop := Operator.symbol_injective ((hunary a).trans (hunary b).symm) h
  have hnode := BinaryOp.binary?_operator a
  rw [hop, BinaryOp.binary?_operator] at hnode
  exact (Option.some.inj hnode).symm

/-- The two prefix operators are written with different signs. -/
theorem UnaryOp.symbol_injective {a b : UnaryOp}
    (h : a.operator.symbol = b.operator.symbol) : a = b := by
  cases a <;> cases b <;> first | rfl | exact absurd h (by decide)

/-- Different reducers have different names, which are those of their temporal forms. -/
theorem Reducer.name_injective {a b : Reducer} (h : a.name = b.name) : a = b :=
  TemporalFunction.reduce.inj (TemporalFunction.name_injective (f := .reduce a) (g := .reduce b) h)

/-- Numbers that a formula can mean are equal if their documents are the same; only the infinite one
has none. -/
theorem Number.eq_of_ofNumber_same {x y : Number} (hx : x ≠ .nan ∧ x.isNegative = false)
    (hy : y ≠ .nan ∧ y.isNegative = false) (h : (Json.ofNumber x).same (.ofNumber y) = true) :
    x = y := by
  have hinfinite : ∀ z : Number, z ≠ .nan ∧ z.isNegative = false → z.units?.isSome = false →
      z = .infinite false := by
    rintro z ⟨hnan, hsign⟩ hunits
    cases z with
    | finite => simp [units?] at hunits
    | infinite negative => simpa [isNegative] using hsign
    | nan => exact absurd rfl hnan
  unfold Json.ofNumber at h
  cases hxu : x.units?.isSome <;> cases hyu : y.units?.isSome <;>
    simp only [hxu, hyu, Bool.false_eq_true, if_true, if_false, Json.same] at h
  · rw [hinfinite x hx hxu, hinfinite y hy hyu]
  · exact Number.eq_of_eqv hx.2 hy.2 h

/-- The document of a literal has no value that is not a number. -/
theorem Constant.toJson_same_self (c : Constant) : c.toJson.same c.toJson = true := by
  cases c with
  | number x =>
    simp only [toJson, Json.ofNumber]
    split
    next hunits =>
      refine (Number.eqv_self_iff x).2 ?_
      rintro rfl
      cases hunits
    next => rfl
  | _ => simp [toJson, Json.same]

/-- Literals that a formula can mean are equal if they have the same document and type. -/
theorem Constant.eq_of_toJson_same {c c' : Constant} (hc : (Kind.constant c).HasShape)
    (hc' : (Kind.constant c').HasShape) (htype : c.valueType = c'.valueType)
    (h : c.toJson.same c'.toJson = true) : c = c' := by
  cases c <;> cases c' <;> cases htype
  case boolean.boolean => rw [beq_iff_eq.1 h]
  case number.number x y => rw [Number.eq_of_ofNumber_same hc hc' h]
  case string.string => rw [beq_iff_eq.1 h]
  case dateTime.dateTime d d' =>
    -- the text of a date-time reads back
    have htext : d.toText = d'.toText := beq_iff_eq.1 h
    have hwf : (Kind.constant (.dateTime d)).WellFormed .empty := Kind.wellFormed_constant_iff.2 hc
    have hwf' : (Kind.constant (.dateTime d')).WellFormed .empty :=
      Kind.wellFormed_constant_iff.2 hc'
    have hread := DateTime.ofText?_toText hwf.1 hwf.2
    rw [htext, DateTime.ofText?_toText hwf'.1 hwf'.2] at hread
    rw [Option.some.inj hread]
  case null.null => rfl

namespace Expr

theorem toJsons_eq_map (es : List Expr) : toJsons es = es.map toJson := by
  induction es with
  | nil => simp [toJsons]
  | cons e es ih => simp [toJsons, ih]

theorem toJson_eq (e : Expr) :
    e.toJson = Json.ofMembers (e.kind.members ++ ("type", .string e.valueType.name) ::
      (e.unit.map fun name => ("unit", Json.string name)).toList) := by
  obtain ⟨kind, unit⟩ := e
  rw [toJson]

/-- Lists are equal if their documents are the same and tell their members. -/
theorem eq_of_toJsons_same {es es' : List Expr}
    (h : (Json.array (toJsons es)).same (.array (toJsons es')) = true)
    (heq : ∀ e ∈ es, ∀ e' ∈ es', e.toJson.same e'.toJson = true → e = e') : es = es' := by
  rw [toJsons_eq_map, toJsons_eq_map] at h
  exact Json.eq_of_sameItems_map h heq

/-- Optional expressions are equal if their documents are the same and tell the expressions. The
document of an expression is never null. -/
theorem eq_of_toJsonOption_same {o o' : Option Expr}
    (h : (toJsonOption o).same (toJsonOption o') = true)
    (heq : ∀ e e', o = some e → o' = some e' → e.toJson.same e'.toJson = true → e = e') :
    o = o' := by
  cases o with
  | none =>
    cases o' with
    | none => rfl
    | some e' => simp [toJsonOption, toJson_eq, Json.ofMembers, Json.same] at h
  | some e =>
    cases o' with
    | none => simp [toJsonOption, toJson_eq, Json.ofMembers, Json.same] at h
    | some e' => rw [heq e e' rfl rfl h]

/-- What is found in the document of a node: its unit, its type, and what its kind decides. -/
theorem member?_toJson (e : Expr) (key : String) :
    e.toJson.member? key =
      if key = "unit" then e.unit.map .string
      else if key = "type" then some (.string e.valueType.name)
      else e.kind.members.reverse.lookup key := by
  rw [toJson_eq, Json.member?_ofMembers, List.reverse_append, List.reverse_cons,
    List.append_assoc, List.lookup_append]
  split
  next hunit =>
    subst hunit
    cases e.unit with
    | none =>
      cases e.kind <;> rfl
    | some unit => rfl
  next hunit =>
    have hnone : ((e.unit.map fun name => ("unit", Json.string name)).toList.reverse.lookup key) =
        none := by
      cases e.unit <;> simp [Json.lookup_cons_eq_ite, hunit]
    rw [hnone, Option.none_or, List.singleton_append, Json.lookup_cons_eq_ite]

/-- Trees with the same document have the same unit at the root. -/
theorem unit_eq_of_toJson_same {e e' : Expr} (h : e.toJson.same e'.toJson = true) :
    e.unit = e'.unit := by
  have hunit := Json.sameOption_member? h "unit"
  simp only [member?_toJson, if_true] at hunit
  cases hleft : e.unit <;> cases hright : e'.unit <;>
    simp_all [Json.sameOption, Json.same]

/-- Trees with the same document have the same type. -/
theorem valueType_eq_of_toJson_same {e e' : Expr} (h : e.toJson.same e'.toJson = true) :
    e.valueType = e'.valueType := by
  have htype := Json.sameOption_member? h "type"
  rw [member?_toJson, member?_toJson] at htype
  exact ValueType.name_injective (beq_iff_eq.1 htype)

/-- In trees with the same document the kinds of the roots decide the same. -/
theorem sameOption_of_toJson_same {e e' : Expr} (h : e.toJson.same e'.toJson = true) {key : String}
    (hkey : key ∉ ["unit", "type"]) :
    Json.sameOption (e.kind.members.reverse.lookup key) (e'.kind.members.reverse.lookup key) =
      true := by
  simp only [List.mem_cons, List.not_mem_nil, or_false, not_or] at hkey
  have hmember := Json.sameOption_member? h key
  rwa [member?_toJson, member?_toJson, if_neg hkey.1, if_neg hkey.2, if_neg hkey.1, if_neg hkey.2]
    at hmember

/-- Trees with the same document have the same root, if the documents of their parts tell the
parts. -/
theorem eq_of_toJson_same_of_children {e e' : Expr} (h : e.toJson.same e'.toJson = true)
    (hshape : e.kind.HasShape) (hshape' : e'.kind.HasShape)
    (hpart : ∀ c ∈ e.children, ∀ c' ∈ e'.children, c.toJson.same c'.toJson = true → c = c') :
    e = e' := by
  have hunit := unit_eq_of_toJson_same h
  have htype := valueType_eq_of_toJson_same h
  have hmember : ∀ key, key ∉ ["unit", "type"] → _ := fun key => sameOption_of_toJson_same h
  have hkind := hmember "kind" (by decide)
  obtain ⟨kind, unit⟩ := e
  obtain ⟨kind', unit'⟩ := e'
  obtain rfl : unit = unit' := hunit
  -- nodes of different kinds have different members at `kind`
  cases kind with
  | constant c =>
    cases kind' with
    | constant c' =>
      -- the type tells a string from a date-time, and null from an infinite number
      have hc : c = c' :=
        Constant.eq_of_toJson_same hshape hshape' htype (hmember "value" (by decide))
      rw [hc]
    | _ => exact absurd hkind Bool.false_ne_true
  | var name type =>
    cases kind' with
    | var name' type' =>
      have hname : name = name' := beq_iff_eq.1 (hmember "name" (by decide))
      -- the type of a name is the type of its node
      have htype : type = type' := htype
      rw [hname, htype]
    | _ => exact absurd hkind Bool.false_ne_true
  | property base name type =>
    cases kind' with
    | property base' name' type' =>
      have hbase : base = base' :=
        hpart _ (by simp [children]) _ (by simp [children]) (hmember "base" (by decide))
      have hname : name = name' := beq_iff_eq.1 (hmember "name" (by decide))
      have htype : type = type' := htype
      rw [hbase, hname, htype]
    | _ => exact absurd hkind Bool.false_ne_true
  | call name type arguments =>
    cases kind' with
    | call name' type' arguments' =>
      have hname : name = name' := beq_iff_eq.1 (hmember "name" (by decide))
      have htype : type = type' := htype
      have harguments : arguments = arguments' :=
        eq_of_toJsons_same (hmember "args" (by decide)) hpart
      rw [hname, htype, harguments]
    | _ => exact absurd hkind Bool.false_ne_true
  | binary op left right =>
    cases kind' with
    | binary op' left' right' =>
      have hop : op = op' :=
        BinaryOp.symbol_injective (beq_iff_eq.1 (hmember "operator" (by decide)))
      have hleft : left = left' :=
        hpart _ (by simp [children]) _ (by simp [children]) (hmember "left" (by decide))
      have hright : right = right' :=
        hpart _ (by simp [children]) _ (by simp [children]) (hmember "right" (by decide))
      rw [hop, hleft, hright]
    | _ => exact absurd hkind Bool.false_ne_true
  | unary op operand =>
    cases kind' with
    | unary op' operand' =>
      have hop : op = op' :=
        UnaryOp.symbol_injective (beq_iff_eq.1 (hmember "operator" (by decide)))
      have hoperand : operand = operand' :=
        hpart _ (by simp [children]) _ (by simp [children]) (hmember "operand" (by decide))
      rw [hop, hoperand]
    | _ => exact absurd hkind Bool.false_ne_true
  | ternary condition positive negative =>
    cases kind' with
    | ternary condition' positive' negative' =>
      have hcondition : condition = condition' :=
        hpart _ (by simp [children]) _ (by simp [children]) (hmember "condition" (by decide))
      have hpositive : positive = positive' :=
        hpart _ (by simp [children]) _ (by simp [children]) (hmember "then" (by decide))
      have hnegative : negative = negative' :=
        hpart _ (by simp [children]) _ (by simp [children]) (hmember "else" (by decide))
      rw [hcondition, hpositive, hnegative]
    | _ => exact absurd hkind Bool.false_ne_true
  | union items =>
    cases kind' with
    | union items' =>
      have hitems : items = items' := eq_of_toJsons_same (hmember "items" (by decide)) hpart
      rw [hitems]
    | _ => exact absurd hkind Bool.false_ne_true
  | array items =>
    cases kind' with
    | array items' =>
      have hitems : items = items' := eq_of_toJsons_same (hmember "items" (by decide)) hpart
      rw [hitems]
    | _ => exact absurd hkind Bool.false_ne_true
  | tuple items =>
    cases kind' with
    | tuple items' =>
      have hitems : items = items' := eq_of_toJsons_same (hmember "items" (by decide)) hpart
      rw [hitems]
    | _ => exact absurd hkind Bool.false_ne_true
  | reduce reducer child =>
    cases kind' with
    | reduce reducer' child' =>
      have hreducer : reducer = reducer' :=
        Reducer.name_injective (beq_iff_eq.1 (hmember "function" (by decide)))
      have hchild : child = child' :=
        hpart _ (by simp [children]) _ (by simp [children]) (hmember "child" (by decide))
      rw [hreducer, hchild]
    | _ => exact absurd hkind Bool.false_ne_true
  | temporal function child period start measure =>
    cases kind' with
    | temporal function' child' period' start' measure' =>
      have hfunction : function = function' :=
        TemporalFunction.name_injective (beq_iff_eq.1 (hmember "function" (by decide)))
      have hchild : child = child' :=
        hpart _ (by simp [children]) _ (by simp [children]) (hmember "child" (by decide))
      -- an argument that is absent is null, which is the document of no tree
      have hperiod : period = period' :=
        eq_of_toJsonOption_same (hmember "time_period" (by decide)) fun c c' hc hc' =>
          hpart c (by simp [children, hc]) c' (by simp [children, hc'])
      have hstart : start = start' :=
        eq_of_toJsonOption_same (hmember "time_from" (by decide)) fun c c' hc hc' =>
          hpart c (by simp [children, hc]) c' (by simp [children, hc'])
      have hmeasure : measure = measure' :=
        eq_of_toJsonOption_same (hmember "unit_of_measure" (by decide)) fun c c' hc hc' =>
          hpart c (by simp [children, hc]) c' (by simp [children, hc'])
      rw [hfunction, hchild, hperiod, hstart, hmeasure]
    | _ => exact absurd hkind Bool.false_ne_true
  | first child =>
    cases kind' with
    | first child' =>
      have hchild : child = child' :=
        hpart _ (by simp [children]) _ (by simp [children]) (hmember "child" (by decide))
      rw [hchild]
    | _ => exact absurd hkind Bool.false_ne_true
  | failed arguments =>
    cases kind' with
    | failed arguments' =>
      have harguments : arguments = arguments' :=
        eq_of_toJsons_same (hmember "args" (by decide)) hpart
      rw [harguments]
    | _ => exact absurd hkind Bool.false_ne_true
  | timer child measure =>
    cases kind' with
    | timer child' measure' =>
      have hchild : child = child' :=
        hpart _ (by simp [children]) _ (by simp [children]) (hmember "child" (by decide))
      have hmeasure : measure = measure' :=
        eq_of_toJsonOption_same (hmember "unit_of_measure" (by decide)) fun c c' hc hc' =>
          hpart c (by simp [children, hc]) c' (by simp [children, hc'])
      rw [hchild, hmeasure]
    | _ => exact absurd hkind Bool.false_ne_true
  | each collection name body =>
    cases kind' with
    | each collection' name' body' =>
      have hcollection : collection = collection' :=
        hpart _ (by simp [children]) _ (by simp [children]) (hmember "collection" (by decide))
      have hname : name = name' := beq_iff_eq.1 (hmember "variable" (by decide))
      have hbody : body = body' :=
        hpart _ (by simp [children]) _ (by simp [children]) (hmember "body" (by decide))
      rw [hcollection, hname, hbody]
    | _ => exact absurd hkind Bool.false_ne_true

/-- Trees of the shape that texts are read as are equal if they have the same document. -/
theorem eq_of_toJson_same {e e' : Expr} (he : ∀ n ∈ e.nodes, n.HasShape)
    (he' : ∀ n ∈ e'.nodes, n.HasShape) (h : e.toJson.same e'.toJson = true) : e = e' := by
  induction e using induction_on_size generalizing e' with
  | h e ih =>
    refine eq_of_toJson_same_of_children h (he _ (mem_nodes_self _)).kind
      (he' _ (mem_nodes_self _)).kind fun c hc c' hc' => ?_
    exact ih c (sizeOf_lt_of_mem_children hc) (fun n hn => he n (nodes_subset hc hn))
      fun n hn => he' n (nodes_subset hc' hn)

theorem toJsons_same_self {es : List Expr} (h : ∀ e ∈ es, e.toJson.same e.toJson = true) :
    Json.sameItems (toJsons es) (toJsons es) = true := by
  induction es with
  | nil => rfl
  | cons e es ih =>
    rw [List.forall_mem_cons] at h
    simp [toJsons, Json.sameItems, h.1, ih h.2]

theorem toJsonOption_same_self {o : Option Expr}
    (h : ∀ e, o = some e → e.toJson.same e.toJson = true) :
    (toJsonOption o).same (toJsonOption o) = true := by
  cases o with
  | none => rfl
  | some e => exact h e rfl

/-- A document has only numbers that are the same as themselves. -/
theorem toJson_same_self (e : Expr) : e.toJson.same e.toJson = true := by
  induction e using induction_on_size with
  | h e ih =>
    have hpart : ∀ c ∈ e.children, c.toJson.same c.toJson = true :=
      fun c hc => ih c (sizeOf_lt_of_mem_children hc)
    have hstring : ∀ s, (Json.string s).same (.string s) = true := fun s => by simp [Json.same]
    have hkind : ∀ m ∈ e.kind.members, m.2.same m.2 = true := by
      clear ih
      obtain ⟨kind, unit⟩ := e
      cases kind with
      | constant c => simp [Kind.members, hstring, Constant.toJson_same_self]
      | _ =>
        simp_all [children, Kind.members, Json.same, toJsons_same_self, toJsonOption_same_self]
    rw [toJson_eq]
    refine Json.ofMembers_same_self fun m hm => ?_
    rcases List.mem_append.1 hm with hm | hm
    · exact hkind m hm
    · rcases List.mem_cons.1 hm with rfl | hm
      · exact hstring _
      · obtain ⟨unit, -, rfl⟩ := Option.map_eq_some_iff.1 (Option.mem_toList.1 hm)
        exact hstring unit

/-- Trees that texts are read as, in whatever environments, have the same document exactly if they
are equal. -/
theorem toJson_same_iff_of_parse {environment environment' : Environment} {text text' : String}
    {e e' : Expr} (h : Expr.parse (.standard environment) text = .ok e)
    (h' : Expr.parse (.standard environment') text' = .ok e') :
    e.toJson.same e'.toJson = true ↔ e = e' := by
  constructor
  · exact eq_of_toJson_same (hasShape_of_parse h) (hasShape_of_parse h')
  · rintro rfl
    exact toJson_same_self e

/-- A string and a date-time are both written as the text of the date-time, and have different
documents. -/
theorem toJson_same_iff_of_parse_dateTime :
    ∃ e e', Expr.parse (.standard ⟨[("a", .number)], []⟩) "'2024-02-29T08:00:00Z'" = .ok e ∧
      Expr.parse (.standard .empty) "DateTimeOffset('2024-02-29 08:00Z')" = .ok e' ∧
      (e.toJson.member? "value").bind Json.string? =
        (e'.toJson.member? "value").bind Json.string? ∧
      e.toJson.same e'.toJson = false := by
  have hread : (Expr.parse (.standard ⟨[("a", .number)], []⟩) "'2024-02-29T08:00:00Z'").toOption.map
      (fun e => ((e.toJson.member? "value").bind Json.string?, e.valueType)) =
        some (some "2024-02-29T08:00:00Z", .string) := by
    decide +kernel
  have hread' : (Expr.parse (.standard .empty) "DateTimeOffset('2024-02-29 08:00Z')").toOption.map
      (fun e => ((e.toJson.member? "value").bind Json.string?, e.valueType)) =
        some (some "2024-02-29T08:00:00Z", .dateTime) := by
    decide +kernel
  obtain ⟨e, hparse, heq⟩ := exists_parse_of_map hread
  obtain ⟨e', hparse', heq'⟩ := exists_parse_of_map hread'
  obtain ⟨hvalue, htype⟩ := Prod.mk.inj heq
  obtain ⟨hvalue', htype'⟩ := Prod.mk.inj heq'
  refine ⟨e, e', hparse, hparse', hvalue.trans hvalue'.symm, Bool.eq_false_iff.2 fun hsame => ?_⟩
  rw [(toJson_same_iff_of_parse hparse hparse').1 hsame, htype'] at htype
  cases htype

end Expr

end Formulas
