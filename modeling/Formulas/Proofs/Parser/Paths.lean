import Formulas.Proofs.Expr.Chains
import Formulas.Proofs.Parser.WellFormed
import Formulas.Proofs.Printer.Derivation
import Formulas.Proofs.Scan.Tokens
import Formulas.Proofs.Text.Case

/-!
# Paths of plain names

Plain names with points between them are scanned as the names with dots between them. The dots are
joined from left to right, and each of them asks the environment for the variable of the dotted name
up to there. So whatever a path has come to before, it is one variable again at every dot where the
environment knows one, and in the end the longest part of the path that is a variable is left, with
the properties of the names behind it.

## Main definitions

* `Token.dotted`: names with a dot between any two;
* `Expr.properties`: the properties of an expression, one behind the other;
* `Environment.Resolves`: the longest beginning of a path that is a variable.

## Main results

* `Grammar.derives_resolved` and `Grammar.derives_dotted`: what a path means, and its name;
* `Expr.exists_parse_path`: the texts of paths.
-/

namespace Formulas

/-! ### Plain names -/

/-- No bracket closes in a name that needs none. -/
theorem bracket_notMem_of_isPlainName {name : String} (h : isPlainName name = true) :
    ']' ∉ name.toList := by
  obtain ⟨c, cs, hname, hstart, hcontinue, -⟩ := Scanner.exists_of_isPlainName h
  have hall : ∀ d ∈ name.toList, Scanner.continuesName d = true := by
    rw [hname, List.forall_mem_cons]
    exact ⟨Scanner.continuesName_of_startsName hstart, hcontinue⟩
  intro hmem
  have hbracket := hall ']' hmem
  rw [Scanner.continuesName_bracket] at hbracket
  cases hbracket

/-- A name that needs no brackets is no literal. It is compared with the literals in lower case,
which letters beyond ASCII have too, but none of those has a letter of a literal. -/
theorem Context.literal?_of_isPlainName {name : String} (h : isPlainName name = true) :
    literal? name = none := by
  have hreserved : ∀ word ∈ reservedWords, Text.sameIgnoringCase name word = false := by
    unfold isPlainName at h
    split at h
    · cases h
    · simp only [Bool.and_eq_true, Bool.not_eq_true'] at h
      simpa using h.2
  have hsmall : ∀ word ∈ ["true", "false", "null", "pi"],
      word ∈ reservedWords ∧ word.toList.all Text.isSmall = true := by decide
  refine literal?_eq_none fun word hword heq => ?_
  obtain ⟨hmem, hletters⟩ := hsmall word hword
  have hsame := Text.sameIgnoringCase_of_lower heq (List.all_eq_true.1 hletters)
  rw [hreserved word hmem] at hsame
  cases hsame

/-- A name that needs no brackets is that of a variable when it stands alone. -/
theorem Expr.isName_of_isPlainName {name : String} (h : isPlainName name = true) :
    Expr.IsName name :=
  ⟨bracket_notMem_of_isPlainName h, Context.literal?_of_isPlainName h⟩

/-! ### Names with dots between them -/

/-- The names with a dot between any two. -/
def Token.dotted : List String → List Token
  | [] => []
  | [name] => [.identifier name]
  | name :: names => .identifier name :: .operator .dot :: dotted names

/-- One more name stands behind a dot. -/
theorem Token.dotted_concat {names : List String} (hne : names ≠ []) (name : String) :
    dotted (names ++ [name]) = dotted names ++ [.operator .dot, .identifier name] := by
  fun_induction dotted names with
  | case1 => exact absurd rfl hne
  | case2 first => rfl
  | case3 first names hnames ih =>
    obtain ⟨second, names, rfl⟩ := List.exists_cons_of_ne_nil (fun h => hnames h)
    simp only [List.cons_append, dotted]
    rw [← List.cons_append, ih (by simp)]

/-- No bracket closes among plain names with points between them. -/
theorem bracket_notMem_intercalate {names : List String}
    (hplain : ∀ n ∈ names, isPlainName n = true) : ']' ∉ (".".intercalate names).toList := by
  fun_induction Token.dotted names with
  | case1 => simp
  | case2 name => simpa using bracket_notMem_of_isPlainName (hplain name (by simp))
  | case3 name names hnames ih =>
    rw [List.forall_mem_cons] at hplain
    rw [String.intercalate_cons_of_ne_nil fun h => hnames h]
    simp only [String.toList_append, List.mem_append, not_or]
    exact ⟨⟨bracket_notMem_of_isPlainName hplain.1, by decide⟩, ih hplain.2⟩

namespace Scanner

open Text

/-- Plain names with points between them are scanned as the names with dots between them, where no
name goes on. -/
theorem spells_dotted {names : List String} (hplain : ∀ n ∈ names, isPlainName n = true)
    {rest : List Char} (hrest : Ends continuesName rest) :
    Spells (".".intercalate names).toList (Token.dotted names) rest := by
  fun_induction Token.dotted names with
  | case1 => exact .nil rest
  | case2 name => exact spells_plain (hplain name (by simp)) hrest
  | case3 name names hnames ih =>
    rw [List.forall_mem_cons] at hplain
    have hbehind := (spells_mark (c := '.') rfl _).append (ih hplain.2)
    have hpoint : Ends continuesName ('.' :: ((".".intercalate names).toList ++ rest)) :=
      (ends_cons ..).2 (by decide)
    have hall := (spells_plain hplain.1 hpoint).append hbehind
    rw [String.intercalate_cons_of_ne_nil fun h => hnames h]
    simpa using hall

end Scanner

/-! ### What a path means -/

/-- The expression with the properties of the given names, one behind the other. -/
def Expr.properties (base : Expr) (names : List String) : Expr :=
  names.foldl (fun e name => (Kind.property e name .object).bare) base

theorem Expr.properties_concat (base : Expr) (names : List String) (name : String) :
    base.properties (names ++ [name]) = (Kind.property (base.properties names) name .object).bare :=
  List.foldl_append ..

/-- The variable of the first `count` names of a path, with the properties of the names behind
them. -/
def Expr.ofPath (environment : Environment) (names : List String) (count : Nat) : Expr :=
  let root := ".".intercalate (names.take count)
  (Kind.var root (environment.variableType root)).bare.properties (names.drop count)

/-- A path that is one variable. -/
theorem Expr.ofPath_length (environment : Environment) (names : List String) :
    ofPath environment names names.length =
      (Kind.var (".".intercalate names)
        (environment.variableType (".".intercalate names))).bare := by
  rw [ofPath, List.take_length, List.drop_length]
  rfl

/-- One more name behind a path is one more property. -/
theorem Expr.ofPath_concat (environment : Environment) {names : List String} {count : Nat}
    (hle : count ≤ names.length) (name : String) :
    ofPath environment (names ++ [name]) count =
      (Kind.property (ofPath environment names count) name .object).bare := by
  rw [ofPath, List.take_append_of_le_length hle, List.drop_append_of_le_length hle,
    properties_concat, ← ofPath]

/-- The first `count` names of a path are its longest beginning that the environment knows as one
variable. A single name is a variable of its own, known or not. -/
structure Environment.Resolves (environment : Environment) (names : List String) (count : Nat) :
    Prop where
  pos : 0 < count
  le_length : count ≤ names.length
  /-- More than one name are one variable only if the environment knows it. -/
  known : 1 < count → environment.variableType? (".".intercalate (names.take count)) ≠ none
  /-- No longer beginning is a variable. -/
  unknown : ∀ longer, count < longer → longer ≤ names.length →
    environment.variableType? (".".intercalate (names.take longer)) = none

namespace Environment.Resolves

variable {environment : Environment} {names : List String} {count : Nat}

/-- A path of one name is its variable. -/
theorem singleton (environment : Environment) (name : String) :
    environment.Resolves [name] 1 where
  pos := Nat.one_pos
  le_length := Nat.le_refl 1
  known := fun h => absurd h (Nat.lt_irrefl 1)
  unknown := fun _ hlt hle => absurd hle (Nat.not_le.2 hlt)

/-- A path that is known as a whole is its variable. -/
theorem whole (hpos : 0 < names.length)
    (hknown : environment.variableType? (".".intercalate names) ≠ none) :
    environment.Resolves names names.length where
  pos := hpos
  le_length := Nat.le_refl _
  known := fun _ => by rwa [List.take_length]
  unknown := fun _ hlt hle => absurd hle (Nat.not_le.2 hlt)

/-- One more name is a property if the longer path is not known. -/
theorem concat (h : environment.Resolves names count) {name : String}
    (hunknown : environment.variableType? (".".intercalate (names ++ [name])) = none) :
    environment.Resolves (names ++ [name]) count where
  pos := h.pos
  le_length := by
    rw [List.length_append]
    exact Nat.le_add_right_of_le h.le_length
  known := by
    rw [List.take_append_of_le_length h.le_length]
    exact h.known
  unknown := by
    intro longer hlt hle
    rcases Nat.lt_or_ge names.length longer with hmore | hfewer
    · rwa [List.take_of_length_le (by rw [List.length_append]; exact hmore)]
    · rw [List.take_append_of_le_length hfewer]
      exact h.unknown longer hlt hfewer

/-- The longest beginning that is a variable is one. -/
theorem unique {count' : Nat} (h : environment.Resolves names count)
    (h' : environment.Resolves names count') : count = count' := by
  -- the longer of two would be known for the one and unknown for the other
  rcases Nat.lt_trichotomy count count' with hlt | heq | hgt
  · exact absurd (h.unknown count' hlt h'.le_length) (h'.known (Nat.lt_of_le_of_lt h.pos hlt))
  · exact heq
  · exact absurd (h'.unknown count hgt h.le_length) (h.known (Nat.lt_of_le_of_lt h'.pos hgt))

end Environment.Resolves

namespace Context

variable {ctx : Context}

/-- A name behind the dot of a resolved path resolves the longer path, and the longer path is the
name of what it comes to. -/
theorem exists_collapse_eq_ofPath {names : List String} (hne : names ≠ []) {count : Nat}
    (hresolves : ctx.environment.Resolves names count)
    (hpath : pathOf? (.ofPath ctx.environment names count) = some (".".intercalate names))
    (name : String) :
    let chain := (Kind.property (.ofPath ctx.environment names count) name .object).bare
    pathOf? chain = some (".".intercalate (names ++ [name])) ∧
      ∃ count', ctx.environment.Resolves (names ++ [name]) count' ∧
        ctx.collapse chain = .ofPath ctx.environment (names ++ [name]) count' := by
  intro chain
  have hchain : pathOf? chain = some (".".intercalate (names ++ [name])) := by
    obtain ⟨hunit, hdotted⟩ := pathOf?_eq_some_iff.1 hpath
    rw [pathOf?_property, hunit, hdotted, String.intercalate_append_of_ne_nil hne (by simp),
      String.intercalate_singleton]
    rfl
  refine ⟨hchain, ?_⟩
  obtain ⟨path, type, hpath', htype, heq⟩ | ⟨hunknown, heq⟩ := collapse_cases ctx chain
  · -- the longer path is a variable, whatever the path was before
    obtain rfl := Option.some.inj (hchain.symm.trans hpath')
    refine ⟨_, .whole (by simp) (by simp [htype]), ?_⟩
    rw [heq, Expr.ofPath_length, Environment.variableType, htype]
    rfl
  · refine ⟨count, hresolves.concat (hunknown _ hchain), ?_⟩
    rw [heq, Expr.ofPath_concat _ hresolves.le_length]

end Context

namespace Grammar

variable {ctx : Context}

/-- Plain names with dots between them mean the variable of the longest beginning that is one, with
the properties of the names behind it. The name of that is the whole path. -/
theorem derives_resolved {names : List String} (hne : names ≠ [])
    (hplain : ∀ n ∈ names, isPlainName n = true) :
    ∃ count, ctx.environment.Resolves names count ∧
      Derives ctx 8 (Token.dotted names) (.ofPath ctx.environment names count) ∧
      Context.pathOf? (.ofPath ctx.environment names count) = some (".".intercalate names) := by
  -- dots group to the left, so the induction takes the names from the end
  induction names using List.reverseRecOn with
  | nil => exact absurd rfl hne
  | append_singleton names name ih =>
    have hname : Derives ctx 9 [.identifier name] _ :=
      Expr.derives_name (Expr.isName_of_isPlainName (hplain name (by simp)))
    by_cases hfront : names = []
    · -- the first name is a variable without a dot to ask for it
      subst hfront
      exact ⟨1, .singleton _ name, hname.tighter, rfl⟩
    · obtain ⟨count, hresolves, hleft, hpath⟩ := ih hfront fun n hn => hplain n (by simp [hn])
      obtain ⟨hchain, count', hresolves', heq⟩ :=
        Context.exists_collapse_eq_ofPath hfront hresolves hpath name
      refine ⟨count', hresolves', ?_, ?_⟩
      · rw [Token.dotted_concat hfront, ← heq]
        exact .dot hleft hname
          (Context.dot_eq_ok_iff.2 ⟨.name .., Context.unit_collapse ctx rfl⟩)
      · rw [← heq, Context.pathOf?_collapse, hchain]

/-- Plain names with dots between them are a chain of that name, whatever prefixes of it are
variables. -/
theorem derives_dotted {names : List String} (hne : names ≠ [])
    (hplain : ∀ n ∈ names, isPlainName n = true) :
    ∃ left, Derives ctx 8 (Token.dotted names) left ∧
      Context.pathOf? left = some (".".intercalate names) := by
  obtain ⟨count, -, hderives, hpath⟩ := derives_resolved hne hplain
  exact ⟨_, hderives, hpath⟩

end Grammar

namespace Expr

/-- A path of plain names is read as the variable of its longest beginning that the environment
knows as one, with the properties of the names behind it. If it knows none, this is the variable of
the first name. -/
theorem exists_parse_path (ctx : Context) {names : List String} (hne : names ≠ [])
    (hplain : ∀ n ∈ names, isPlainName n = true) :
    ∃ count, ctx.environment.Resolves names count ∧
      Expr.parse ctx (".".intercalate names) = .ok (ofPath ctx.environment names count) := by
  obtain ⟨count, hresolves, hderives, -⟩ := Grammar.derives_resolved hne hplain
  have hscan := (Scanner.spells_dotted hplain (Text.ends_nil _)).ofText_eq
  exact ⟨count, hresolves, hderives.parse_eq (by decide) hscan⟩

/-- The environment knows `a` and `a.b.c` as variables, but not `a.b`, which the dots pass on their
way. -/
theorem parse_path_passing :
    let environment : Environment := ⟨[("a", .string), ("a.b.c", .number)], []⟩
    (∀ n ∈ ["a", "b", "c", "d"], isPlainName n = true) ∧
      environment.Resolves ["a", "b", "c", "d"] 3 ∧
      Expr.parse (.standard environment) "a.b.c.d" =
        .ok (Kind.property (Kind.var "a.b.c" .number).bare "d" .object).bare := by
  intro environment
  have hplain : ∀ n ∈ ["a", "b", "c", "d"], isPlainName n = true := by decide
  have hvariable : environment.Resolves ["a", "b", "c"] 3 := .whole (by decide) (by decide)
  have hresolves : environment.Resolves (["a", "b", "c"] ++ ["d"]) 3 := hvariable.concat (by decide)
  obtain ⟨count, hresolves', hparse⟩ :=
    exists_parse_path (.standard environment) (by decide) hplain
  obtain rfl := hresolves.unique hresolves'
  exact ⟨hplain, hresolves, hparse⟩

end Expr

end Formulas
