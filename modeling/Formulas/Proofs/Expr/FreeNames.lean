import Formulas.Expr.FreeNames
import Formulas.Proofs.Expr.Nodes
import Mathlib.Data.List.Induction

/-!
# Where free names stand

A place in an expression is the way from the root to a node: for every node on the way the number of
the part with which the way goes on, counted from zero. Places are ordered as lists of numbers are,
so that of two places the one is less that stands further to the left, or above the other.

Stated by places, a free variable is one that stands somewhere outside the bodies of all iterations
over its name, however deep and in whatever order iterations stand in each other. The free names are
listed in the order of the first places where they stand.

The walk that collects them knows no places, only the stack of the variables bound around it and the
names noted before it. So what it does is proved for every stack and all names noted before: it
notes the names at their places from left to right, less those on the stack, and leaves the stack as
it was.

## Main definitions

* `Expr.nodeAt?`: the node at a place;
* `Expr.MentionsFree` and `Expr.Calls`: the places of free variables and of calls;
* `Expr.ListsFirst`: a list of names in the order of their first places;
* `Expr.NotesAll`: what a walk does from any state.

## Main results

* `Expr.ListsFirst.unique`: no two lists of names are in that order;
* `Expr.notesAll_collect`: the walk through an expression notes its names at their places;
* `Expr.eq_freeNames_iff`: the free names are what their places say.
-/

namespace Formulas.Collected

/-- Note names one after the other. -/
def noteAll (s : Collected) (names : List String) : Collected := names.foldl note s

@[simp]
theorem noteAll_nil (s : Collected) : s.noteAll [] = s := rfl

@[simp]
theorem noteAll_cons (s : Collected) (name : String) (names : List String) :
    s.noteAll (name :: names) = (s.note name).noteAll names := rfl

theorem noteAll_append (s : Collected) (names names' : List String) :
    s.noteAll (names ++ names') = (s.noteAll names).noteAll names' :=
  List.foldl_append

/-- To note a name leaves the stack of bound variables as it is. -/
@[simp]
theorem note_bound (s : Collected) (name : String) : (s.note name).bound = s.bound := by
  unfold note
  split <;> rfl

@[simp]
theorem noteAll_bound (s : Collected) (names : List String) :
    (s.noteAll names).bound = s.bound := by
  induction names generalizing s with
  | nil => rfl
  | cons name names ih => rw [noteAll_cons, ih, note_bound]

/-- Which variables are bound does not matter to what is noted. -/
theorem note_enter (s : Collected) (x name : String) :
    (s.enter x).note name = (s.note name).enter x := by
  unfold note enter
  split <;> rfl

/-- To note names in the body of an iteration is to note them outside. -/
theorem leave_noteAll_enter (s : Collected) (x : String) (names : List String) :
    ((s.enter x).noteAll names).leave = s.noteAll names := by
  induction names generalizing s with
  | nil => rfl
  | cons name names ih => rw [noteAll_cons, noteAll_cons, note_enter, ih]

/-- Noted from the start, the names are there once each, in the order of their first mention. -/
theorem found_noteAll (bound names : List String) :
    (noteAll ⟨bound, []⟩ names).found = names.eraseDups := by
  induction names using List.reverseRecOn with
  | nil => rfl
  | append_singleton names name ih =>
    -- a name that is met again stays where it was first met
    rw [noteAll_append, noteAll_cons, noteAll_nil, List.eraseDups_append, ← ih, note]
    split <;> simp_all [List.removeAll, List.eraseDups_cons]

end Formulas.Collected

namespace Formulas.Expr

/-! ### Lists of names by their places -/

/-- `names` are the names that stand at places, each once, in the order of their first places. -/
structure ListsFirst (Stands : List Nat → String → Prop) (names : List String) : Prop where
  nodup : names.Nodup
  mem_iff : ∀ name, name ∈ names ↔ ∃ place, Stands place name
  ordered : names.Pairwise fun name later =>
    ∃ place, Stands place name ∧ ∀ place', Stands place' later → place < place'

/-- `names` are the names that stand at places, one for each place, from left to right. -/
def ListsAll (Stands : List Nat → String → Prop) (names : List String) : Prop :=
  ∃ found : List (List Nat × String), (∀ place name, (place, name) ∈ found ↔ Stands place name) ∧
    found.Pairwise (fun o o' => o.1 < o'.1) ∧ found.map Prod.snd = names

variable {Stands Stands' : List Nat → String → Prop} {names names' : List String}

/-- There is only one list of the names in the order of their first places. -/
theorem ListsFirst.unique (h : ListsFirst Stands names) (h' : ListsFirst Stands names') :
    names = names' := by
  have hperm : names.Perm names' := (List.perm_ext_iff_of_nodup h.nodup h'.nodup).2 fun name => by
    rw [h.mem_iff, h'.mem_iff]
  refine hperm.eq_of_pairwise ?_ h.ordered h'.ordered
  -- of two names only one can have a place before all places of the other
  rintro name later - - ⟨place, hplace, hbefore⟩ ⟨place', hplace', hbefore'⟩
  exact absurd (hbefore' place hplace) (List.lt_asymm (hbefore place' hplace'))

/-- What is kept of a list without repetitions was there before all that is kept behind it. -/
theorem pairwise_eraseDups_map {α : Type} {R : α → α → Prop} {f : α → String} {l : List α}
    (h : l.Pairwise R) :
    (l.map f).eraseDups.Pairwise fun x y => ∃ a ∈ l, f a = x ∧ ∀ b ∈ l, f b = y → R a b := by
  match l with
  | [] => simp
  | a :: l =>
    rw [List.pairwise_cons] at h
    -- behind the first entry only those of other names are left
    let others := l.filter fun b => f b != f a
    have hothers : (l.map f).filter (fun x => !x == f a) = others.map f := List.filter_map
    have hrest := pairwise_eraseDups_map (f := f) (h.2.filter fun b => f b != f a)
    have hmem : ∀ y ∈ (others.map f).eraseDups, ∀ b ∈ a :: l, f b = y → b ∈ others := by
      intro y hy b hb hby
      rw [List.mem_eraseDups, ← hothers, List.mem_filter] at hy
      have hne : f b ≠ f a := by simpa [hby] using hy.2
      rcases List.mem_cons.1 hb with rfl | hb
      · exact absurd rfl hne
      · exact List.mem_filter.2 ⟨hb, by simpa using hne⟩
    rw [List.map_cons, List.eraseDups_cons, hothers, List.pairwise_cons]
    refine ⟨fun y hy => ⟨a, List.mem_cons_self, rfl, fun b hb hby => ?_⟩, ?_⟩
    · exact h.1 b (List.mem_filter.1 (hmem y hy b hb hby)).1
    · refine hrest.imp_of_mem fun _ hy => ?_
      rintro ⟨c, hc, hcx, hall⟩
      exact ⟨c, List.mem_cons_of_mem _ (List.mem_filter.1 hc).1, hcx,
        fun b hb hby => hall b (hmem _ hy b hb hby) hby⟩
termination_by l.length
decreasing_by exact Nat.lt_succ_of_le (List.length_filter_le ..)

/-- Without repetitions the names are in the order of their first places. -/
theorem ListsAll.eraseDups (h : ListsAll Stands names) : ListsFirst Stands names.eraseDups := by
  obtain ⟨found, hmem, hordered, rfl⟩ := h
  have hfirst : (found.map Prod.snd).eraseDups.Pairwise fun name later =>
      ∃ place, Stands place name ∧ ∀ place', Stands place' later → place < place' := by
    refine (pairwise_eraseDups_map hordered).imp ?_
    rintro name later ⟨⟨place, _⟩, ho, rfl, hbefore⟩
    exact ⟨place, (hmem _ _).1 ho, fun place' hplace' => hbefore _ ((hmem _ _).2 hplace') rfl⟩
  refine ⟨hfirst.imp ?_, fun name => ?_, hfirst⟩
  · -- no place is before itself
    rintro name _ ⟨place, hplace, hbefore⟩ rfl
    exact List.lt_irrefl place (hbefore place hplace)
  · simp [List.mem_eraseDups, hmem]

/-- Places that hold the same names list the same names. -/
theorem ListsAll.congr (h : ListsAll Stands names)
    (hiff : ∀ place name, Stands place name ↔ Stands' place name) : ListsAll Stands' names := by
  obtain ⟨found, hmem, hordered, hnames⟩ := h
  exact ⟨found, fun place name => (hmem place name).trans (hiff place name), hordered, hnames⟩

/-- No names stand where nothing stands. -/
theorem listsAll_nil (h : ∀ place name, ¬Stands place name) : ListsAll Stands [] :=
  ⟨[], by simpa using h, .nil, rfl⟩

/-- A name at the root stands in front of the names below. -/
theorem ListsAll.cons (h : ListsAll Stands names) (hroot : ∀ name, ¬Stands [] name)
    (name : String) :
    ListsAll (fun place other => place = [] ∧ other = name ∨ Stands place other)
      (name :: names) := by
  obtain ⟨found, hmem, hordered, rfl⟩ := h
  refine ⟨([], name) :: found, fun place other => ?_, ?_, rfl⟩
  · rw [List.mem_cons, Prod.mk.injEq, hmem]
  · refine List.pairwise_cons.2 ⟨?_, hordered⟩
    rintro ⟨_ | ⟨i, place⟩, other⟩ ho
    · exact absurd ((hmem _ _).1 ho) (hroot other)
    · exact List.nil_lt_cons i place

/-- Names in one more part of a node stand behind the names in the parts before it. -/
theorem ListsAll.append (h : ListsAll Stands names) (h' : ListsAll Stands' names') (n : Nat)
    (hbefore : ∀ place name, Stands place name → place < [n]) :
    ListsAll (fun place name => Stands place name ∨ ∃ rest, place = n :: rest ∧ Stands' rest name)
      (names ++ names') := by
  obtain ⟨found, hmem, hordered, rfl⟩ := h
  obtain ⟨found', hmem', hordered', rfl⟩ := h'
  -- the places in the part, as places in the node
  let last := found'.map fun o => (n :: o.1, o.2)
  have hlast : ∀ place name, (place, name) ∈ last ↔
      ∃ rest, place = n :: rest ∧ Stands' rest name := by
    simp only [last, List.mem_map, Prod.exists, Prod.mk.injEq, hmem']
    grind
  have hlastOrdered : last.Pairwise fun o o' => o.1 < o'.1 :=
    List.pairwise_map.2 (hordered'.imp fun hlt => List.cons_lt_cons_iff.2 (.inr ⟨rfl, hlt⟩))
  refine ⟨found ++ last, fun place name => ?_, ?_, ?_⟩
  · rw [List.mem_append, hmem, hlast]
  · refine List.pairwise_append.2 ⟨hordered, hlastOrdered, ?_⟩
    rintro ⟨place, name⟩ ho ⟨place', name'⟩ ho'
    obtain ⟨rest, rfl, -⟩ := (hlast place' name').1 ho'
    have hlt := hbefore place name ((hmem place name).1 ho)
    rcases place with _ | ⟨i, place⟩
    · exact List.nil_lt_cons n rest
    · exact List.cons_lt_cons_iff.2 (.inl (by simpa [List.cons_lt_cons_iff] using hlt))
  · simp [last, Function.comp_def]

/-! ### Places -/

/-- The node at a place. -/
def nodeAt? : Expr → List Nat → Option Expr
  | e, [] => some e
  | e, i :: place => e.children[i]?.bind fun c => c.nodeAt? place
termination_by structural _ place => place

@[simp]
theorem nodeAt?_nil (e : Expr) : e.nodeAt? [] = some e := rfl

@[simp]
theorem nodeAt?_cons (e : Expr) (i : Nat) (place : List Nat) :
    e.nodeAt? (i :: place) = e.children[i]?.bind fun c => c.nodeAt? place := rfl

/-- A variable of that name stands at the place and is free there: the way to the place does not go
through the body of an iteration over the name, which is the part of the iteration with the number
1, behind the collection. -/
structure MentionsFree (e : Expr) (place : List Nat) (name : String) : Prop where
  exists_var : ∃ type unit, e.nodeAt? place = some ⟨.var name type, unit⟩
  notBound : ∀ before after, place = before ++ 1 :: after →
    ∀ collection body unit, e.nodeAt? before ≠ some ⟨.each collection name body, unit⟩

/-- A call of that name stands at the place. -/
def Calls (e : Expr) (place : List Nat) (name : String) : Prop :=
  ∃ type arguments unit, e.nodeAt? place = some ⟨.call name type arguments, unit⟩

/-- A variable stands free at the root if the root is the variable. -/
theorem mentionsFree_nil {e : Expr} {name : String} :
    e.MentionsFree [] name ↔ ∃ type, e.kind = .var name type := by
  obtain ⟨kind, unit⟩ := e
  constructor
  · rintro ⟨⟨type, unit', h⟩, -⟩
    cases h
    exact ⟨type, rfl⟩
  · rintro ⟨type, rfl⟩
    exact ⟨⟨type, unit, rfl⟩, fun before after h => by simp at h⟩

/-- A variable stands free in a part of a node if it stands free in the part on its own, and the
part is no body of an iteration over it. -/
theorem mentionsFree_cons {e : Expr} {i : Nat} {rest : List Nat} {name : String} :
    e.MentionsFree (i :: rest) name ↔
      ∃ c, e.children[i]? = some c ∧ c.MentionsFree rest name ∧
        (i = 1 → ∀ collection body, e.kind ≠ .each collection name body) := by
  obtain ⟨kind, unit⟩ := e
  constructor
  · rintro ⟨⟨type, unit', h⟩, hbound⟩
    obtain ⟨c, hc, hvar⟩ := Option.bind_eq_some_iff.1 h
    refine ⟨c, hc, ⟨⟨type, unit', hvar⟩, fun before after hplace collection body u heach => ?_⟩, ?_⟩
    · refine hbound (i :: before) after (by rw [hplace, List.cons_append]) collection body u ?_
      rw [nodeAt?_cons, hc]
      exact heach
    · rintro rfl collection body rfl
      exact hbound [] rest rfl collection body unit rfl
  · rintro ⟨c, hc, ⟨⟨type, unit', hvar⟩, hbound⟩, hroot⟩
    refine ⟨⟨type, unit', ?_⟩, fun before after hplace collection body u heach => ?_⟩
    · rw [nodeAt?_cons, hc]
      exact hvar
    · -- the iteration is the node itself or stands in the part
      rcases before with _ | ⟨j, before⟩
      · cases hplace
        cases heach
        exact hroot rfl collection body rfl
      · obtain ⟨rfl, rfl⟩ := List.cons.inj hplace
        rw [nodeAt?_cons, hc] at heach
        exact hbound before after rfl collection body u heach

/-- A call stands at the root if the root is the call. -/
theorem calls_nil {e : Expr} {name : String} :
    e.Calls [] name ↔ ∃ type arguments, e.kind = .call name type arguments := by
  obtain ⟨kind, unit⟩ := e
  constructor
  · rintro ⟨type, arguments, unit', h⟩
    cases h
    exact ⟨type, arguments, rfl⟩
  · rintro ⟨type, arguments, rfl⟩
    exact ⟨type, arguments, unit, rfl⟩

/-- A call stands in a part of a node. -/
theorem calls_cons {e : Expr} {i : Nat} {rest : List Nat} {name : String} :
    e.Calls (i :: rest) name ↔ ∃ c, e.children[i]? = some c ∧ c.Calls rest name := by
  simp only [Calls, nodeAt?, Option.bind_eq_some_iff]
  grind

/-! ### The walk -/

/-- The walk through an expression notes the name at the place: a call of that name stands there or,
if it collects variables, a free variable of that name that is not bound outside. -/
def Collects (functions : Bool) (e : Expr) (bound : List String) (place : List Nat)
    (name : String) : Prop :=
  if functions then e.Calls place name else e.MentionsFree place name ∧ name ∉ bound

/-- From any state, what is done notes the names that stand at places, from left to right, and
changes nothing else. -/
def NotesAll (act : Collected → Collected)
    (Stands : List String → List Nat → String → Prop) : Prop :=
  ∀ s : Collected, ∃ names, ListsAll (Stands s.bound) names ∧ act s = s.noteAll names

variable {functions : Bool} {bound : List String}

/-- The walk goes on in the parts of a node with the same variables bound, unless the node is an
iteration. -/
theorem collects_cons {e : Expr} {i : Nat} {rest : List Nat} {name : String}
    (heach : ∀ collection name body, e.kind ≠ .each collection name body) :
    e.Collects functions bound (i :: rest) name ↔
      ∃ c, e.children[i]? = some c ∧ c.Collects functions bound rest name := by
  cases functions with
  | true => exact calls_cons
  | false =>
    simp only [Collects, Bool.false_eq_true, if_false, mentionsFree_cons]
    grind

/-- In the body of an iteration its variable is bound too. -/
theorem collects_each {collection body : Expr} {x : String} {unit : Option String}
    {place : List Nat} {name : String} :
    Collects functions ⟨.each collection x body, unit⟩ bound place name ↔
      (∃ rest, place = 0 :: rest ∧ collection.Collects functions bound rest name) ∨
        ∃ rest, place = 1 :: rest ∧ body.Collects functions (x :: bound) rest name := by
  cases functions with
  | true =>
    rcases place with _ | ⟨_ | _ | i, rest⟩ <;> simp [Collects, calls_nil, calls_cons, children]
  | false =>
    rcases place with _ | ⟨_ | _ | i, rest⟩
    · simp [Collects, mentionsFree_nil]
    · simp [Collects, mentionsFree_cons, children]
    · -- not bound on the way through the body means not the variable of the iteration
      have hbound : (body.MentionsFree rest name ∧ x ≠ name) ∧ name ∉ bound ↔
          body.MentionsFree rest name ∧ name ∉ x :: bound := by grind
      simpa [Collects, mentionsFree_cons, children] using hbound
    · simp [Collects, mentionsFree_cons, children]

/-- An entry of a list with one more is an entry of the list, or the one more. -/
theorem getElem?_concat_eq_some_iff {α : Type} {l : List α} {a b : α} {i : Nat} :
    (l ++ [a])[i]? = some b ↔ l[i]? = some b ∨ i = l.length ∧ a = b := by
  grind

/-- If the walks through nodes note their names, the walk through one after the other does, each
node a part with its number. -/
theorem notesAll_foldl {es : List Expr}
    (h : ∀ c ∈ es, NotesAll (c.collect functions) (c.Collects functions)) :
    NotesAll (fun s => es.foldl (fun s c => c.collect functions s) s) fun bound place name =>
      ∃ i rest c, place = i :: rest ∧ es[i]? = some c ∧ c.Collects functions bound rest name := by
  induction es using List.reverseRecOn with
  | nil => exact fun s => ⟨[], listsAll_nil (by simp), rfl⟩
  | append_singleton es c ih =>
    intro s
    obtain ⟨names, hnames, heq⟩ := ih (fun c hc => h c (by simp [hc])) s
    obtain ⟨names', hnames', heq'⟩ := h c (by simp) (s.noteAll names)
    rw [Collected.noteAll_bound] at hnames'
    refine ⟨names ++ names', (hnames.append hnames' es.length ?_).congr ?_, ?_⟩
    · rintro _ name ⟨i, rest, c, rfl, hc, -⟩
      exact List.cons_lt_cons_iff.2 (.inl (List.getElem?_eq_some_iff.1 hc).1)
    · -- the last node is the part whose number is the number of the nodes before it
      intro place name
      simp only [getElem?_concat_eq_some_iff]
      constructor
      · rintro (⟨i, rest, p, rfl, hp, hstands⟩ | ⟨rest, rfl, hstands⟩)
        · exact ⟨i, rest, p, rfl, .inl hp, hstands⟩
        · exact ⟨_, rest, c, rfl, .inr ⟨rfl, rfl⟩, hstands⟩
      · rintro ⟨i, rest, p, rfl, hp | ⟨rfl, rfl⟩, hstands⟩
        · exact .inl ⟨i, rest, p, rfl, hp, hstands⟩
        · exact .inr ⟨rest, rfl, hstands⟩
    · rw [Collected.noteAll_append, ← heq', ← heq]
      exact List.foldl_append

/-- The walk notes a variable that is not bound. -/
theorem notesAll_var (name : String) (type : ValueType) (unit : Option String) :
    NotesAll (collect functions ⟨.var name type, unit⟩)
      (Collects functions ⟨.var name type, unit⟩) := by
  intro s
  rw [collect]
  split
  case isTrue h =>
    have hfree : functions = false ∧ name ∉ s.bound := by simpa using h
    have hnone : ListsAll (fun _ _ => False) [] := listsAll_nil (by simp)
    refine ⟨[name], (hnone.cons (by simp) name).congr ?_, rfl⟩
    rintro (_ | ⟨i, rest⟩) other
    · have hroot : other = name ↔ name = other ∧ other ∉ s.bound := by grind
      simpa [Collects, hfree, mentionsFree_nil] using hroot
    · simp [collects_cons, children]
  case isFalse h =>
    -- functions are asked for, or the variable is that of an iteration around the node
    refine ⟨[], listsAll_nil ?_, rfl⟩
    rintro (_ | ⟨i, rest⟩) other
    · simp only [Collects, calls_nil, mentionsFree_nil]
      grind
    · simp [collects_cons, children]

/-- The walk notes a call in front of what it notes in the arguments. -/
theorem notesAll_call {name : String} {type : ValueType} {arguments : List Expr}
    {unit : Option String}
    (h : ∀ c ∈ arguments, NotesAll (c.collect functions) (c.Collects functions)) :
    NotesAll (collect functions ⟨.call name type arguments, unit⟩)
      (Collects functions ⟨.call name type arguments, unit⟩) := by
  intro s
  have hcollect : collect functions ⟨.call name type arguments, unit⟩ s =
      arguments.foldl (fun s c => collect functions c s)
        (if functions then s.note name else s) := by
    rw [collect]
    exact List.foldl_attach (f := fun s c => collect functions c s)
  cases functions with
  | false =>
    obtain ⟨names, hnames, heq⟩ := notesAll_foldl h s
    refine ⟨names, hnames.congr ?_, hcollect.trans heq⟩
    rintro (_ | ⟨i, rest⟩) other
    · simp [Collects, mentionsFree_nil]
    · simp [collects_cons, children]
  | true =>
    -- the root is before all places in the arguments
    obtain ⟨names, hnames, heq⟩ := notesAll_foldl h (s.note name)
    refine ⟨name :: names, (hnames.cons (by simp) name).congr ?_, hcollect.trans heq⟩
    rintro (_ | ⟨i, rest⟩) other
    · simp [Collects, calls_nil, eq_comm]
    · simp [Collects, calls_cons, children]

/-- In an iteration the walk notes what it notes in the collection and then, with the variable
bound, in the body. -/
theorem notesAll_each {collection body : Expr} {x : String} {unit : Option String}
    (hcollection : NotesAll (collection.collect functions) (collection.Collects functions))
    (hbody : NotesAll (body.collect functions) (body.Collects functions)) :
    NotesAll (collect functions ⟨.each collection x body, unit⟩)
      (Collects functions ⟨.each collection x body, unit⟩) := by
  intro s
  obtain ⟨names, hnames, heq⟩ := hcollection s
  obtain ⟨names', hnames', heq'⟩ := hbody ((s.noteAll names).enter x)
  -- the collection is the part with the number 0, and the body the one with the number 1
  have hnone : ListsAll (fun _ _ => False) [] := listsAll_nil (by simp)
  have hfirst := hnone.append hnames 0 (by simp)
  have hboth := hfirst.append hnames' 1 <| by
    rintro _ name (hfalse | ⟨rest, rfl, -⟩)
    · exact hfalse.elim
    · exact List.cons_lt_cons_iff.2 (.inl Nat.zero_lt_one)
  refine ⟨names ++ names', hboth.congr fun place name => ?_, ?_⟩
  · simp [collects_each, Collected.enter]
  · rw [collect, heq, heq', Collected.leave_noteAll_enter, Collected.noteAll_append]

/-- In every other node the walk notes what it notes in the parts. -/
theorem notesAll_children {e : Expr} (hvar : ∀ name type, e.kind ≠ .var name type)
    (hcall : ∀ name type arguments, e.kind ≠ .call name type arguments)
    (heach : ∀ collection name body, e.kind ≠ .each collection name body)
    (h : ∀ c ∈ e.children, NotesAll (c.collect functions) (c.Collects functions)) :
    NotesAll (e.collect functions) (e.Collects functions) := by
  intro s
  obtain ⟨names, hnames, heq⟩ := notesAll_foldl h s
  refine ⟨names, hnames.congr ?_, ?_⟩
  · rintro (_ | ⟨i, rest⟩) name
    · simp [Collects, mentionsFree_nil, calls_nil, hvar, hcall]
    · simp [collects_cons heach]
  · rw [← heq, collect]
    · exact List.foldl_attach (f := fun s c => collect functions c s)
    · rintro name type unit rfl
      exact hvar name type rfl
    · rintro name type arguments unit rfl
      exact hcall name type arguments rfl
    · rintro collection name body unit rfl
      exact heach collection name body rfl

/-- From any state, the walk through an expression notes the names at their places. -/
theorem notesAll_collect (functions : Bool) (e : Expr) :
    NotesAll (e.collect functions) (e.Collects functions) := by
  induction e using induction_on_size with
  | h e ih =>
    have hparts : ∀ c ∈ e.children, NotesAll (c.collect functions) (c.Collects functions) :=
      fun c hc => ih c (sizeOf_lt_of_mem_children hc)
    obtain ⟨kind, unit⟩ := e
    cases kind with
    | var name type => exact notesAll_var name type unit
    | call name type arguments => exact notesAll_call hparts
    | each collection x body =>
      have hcollection := hparts collection (by simp [children])
      have hbody := hparts body (by simp [children])
      exact notesAll_each hcollection hbody
    | _ => exact notesAll_children (by simp) (by simp) (by simp) hparts

/-- Begun with no variable bound and no name noted, the walk finds the names at their places, each
once. -/
theorem listsFirst_found_collect (functions : Bool) (e : Expr)
    (h : ∀ place name, e.Collects functions [] place name ↔ Stands place name) :
    ListsFirst Stands (e.collect functions ⟨[], []⟩).found := by
  obtain ⟨mentions, hmentions, heq⟩ := notesAll_collect functions e ⟨[], []⟩
  rw [heq, Collected.found_noteAll]
  exact (hmentions.congr h).eraseDups

/-- The free variables, and the functions that are called, are those at their places, each once and
in the order of their first places. -/
theorem eq_freeNames_iff (e : Expr) (names : List String) :
    (names = e.freeVariables ↔ ListsFirst e.MentionsFree names) ∧
      (names = e.freeFunctions ↔ ListsFirst e.Calls names) := by
  have hvariables : ListsFirst e.MentionsFree e.freeVariables :=
    listsFirst_found_collect false e (by simp [Collects])
  have hfunctions : ListsFirst e.Calls e.freeFunctions :=
    listsFirst_found_collect true e (by simp [Collects])
  exact ⟨⟨fun h => h ▸ hvariables, fun h => h.unique hvariables⟩,
    ⟨fun h => h ▸ hfunctions, fun h => h.unique hfunctions⟩⟩

/-- In an iteration over `x`, the collection still has the `x` from outside. -/
example :
    let var name := (Kind.var name .object).bare
    let inner := (Kind.each (var "x") "x" (var "x")).bare
    (Kind.each inner "y" (Kind.union [var "y", var "z", var "x"]).bare).bare.freeVariables =
      ["x", "z"] := by
  cbv

end Formulas.Expr
