import SourceOutline.Catalogue.Basic
import SourceOutline.Node
import SourceOutline.Symbol

/-!
# Declarations and where they stand

A *place* is an occurrence of a node in a syntax tree: the root, or a child of another place.
`Node.places` lists all places of a tree, every node before the nodes below it, and each place once
(`Node.nodup_places`).

The *arrangement* of a tree is a forest of places: of the declarations that have a name and stand
below no declaration without one. It is characterised by two facts. Its places are those of the tree
with this property, in the same order (`LanguageEntry.preorder_arrangement`), and each of them
stands under the nearest declaration above it (`LanguageEntry.nested_arrangement`).
-/

namespace SourceOutline

/-! ## Places -/

/-- An occurrence of a node in a tree. -/
inductive Place where
  /-- The root of a tree. -/
  | root (node : Node)
  /-- The child of a place that has so many children before it. -/
  | child (holder : Place) (index : Nat) (node : Node)

namespace Place

/-- The node at a place. -/
def node : Place → Node
  | .root node => node
  | .child _ _ node => node

/-- The places around a place, the nearest first. -/
def above : Place → List Place
  | .root _ => []
  | .child holder _ _ => holder :: holder.above

/-- A place and the places around it. -/
def line (place : Place) : List Place := place :: place.above

@[simp] theorem above_child (holder : Place) (index : Nat) (n : Node) :
    (child holder index n).above = holder.line := rfl

theorem mem_line_self (place : Place) : place ∈ place.line := List.mem_cons_self

/-- The places around a place in the line of another are in that line. -/
theorem line_subset {place other : Place} (h : other ∈ place.line) :
    ∀ outer ∈ other.line, outer ∈ place.line := by
  induction place with
  | root n =>
    simp only [line, above, List.mem_singleton] at h
    subst h
    exact fun _ houter => houter
  | child holder index n ih =>
    rcases List.mem_cons.1 h with rfl | hmem
    · exact fun _ houter => houter
    · exact fun outer houter => List.mem_cons_of_mem _ (ih hmem outer houter)

/-- The places around a place are fewer than those around one below it. -/
theorem length_above_lt {place other : Place} (h : other ∈ place.above) :
    other.above.length < place.above.length := by
  induction place with
  | root n => simp [above] at h
  | child holder index n ih =>
    rw [above_child, line, List.length_cons]
    rcases List.mem_cons.1 h with rfl | hmem
    · omega
    · have := ih hmem
      omega

/-- On the way to a place there is one place at each depth. -/
theorem eq_of_mem_line {place a b : Place} (ha : a ∈ place.line) (hb : b ∈ place.line)
    (hlength : a.above.length = b.above.length) : a = b := by
  induction place with
  | root n =>
    simp only [line, above, List.mem_singleton] at ha hb
    rw [ha, hb]
  | child holder index n ih =>
    rcases List.mem_cons.1 ha with rfl | ha' <;> rcases List.mem_cons.1 hb with rfl | hb'
    · rfl
    · have := length_above_lt hb'
      omega
    · have := length_above_lt ha'
      omega
    · exact ih ha' hb'

end Place

namespace Node

mutual

/-- The places of a node that stands at `place`, and of the nodes below it. -/
def placesAt (place : Place) (node : Node) : List Place :=
  match node with
  | ⟨_, _, _, _, children, _⟩ => place :: placesBelow place 0 children

/-- The places of the children of `holder` from the one with that index on. -/
def placesBelow (holder : Place) (index : Nat) : List Node → List Place
  | [] => []
  | node :: rest =>
    placesAt (.child holder index node) node ++ placesBelow holder (index + 1) rest

end

/-- All places of a tree, every node before the nodes below it. -/
def places (tree : Node) : List Place := placesAt (.root tree) tree

mutual

/-- The way up from a place of a node leads through the node. -/
theorem mem_line_of_mem_placesAt {place other : Place} :
    (node : Node) → other ∈ placesAt place node → place ∈ other.line
  | ⟨_, _, _, _, children, _⟩, h => by
    rw [placesAt] at h
    rcases List.mem_cons.1 h with rfl | hbelow
    · exact Place.mem_line_self other
    · obtain ⟨j, n, -, hline⟩ := exists_child_of_mem_placesBelow children hbelow
      exact Place.line_subset hline place (List.mem_cons_of_mem _ (Place.mem_line_self place))

/-- The way up from a place below the children of `holder` leads through one of them. -/
theorem exists_child_of_mem_placesBelow {holder other : Place} {index : Nat} :
    (nodes : List Node) → other ∈ placesBelow holder index nodes →
      ∃ j n, index ≤ j ∧ .child holder j n ∈ other.line
  | [], h => by simp [placesBelow] at h
  | n :: rest, h => by
    rw [placesBelow] at h
    rcases List.mem_append.1 h with hn | hrest
    · exact ⟨index, n, Nat.le_refl _, mem_line_of_mem_placesAt n hn⟩
    · obtain ⟨j, m, hj, hline⟩ := exists_child_of_mem_placesBelow rest hrest
      exact ⟨j, m, by omega, hline⟩

end

theorem mem_above_of_mem_placesBelow {holder other : Place} {nodes : List Node} {index : Nat}
    (h : other ∈ placesBelow holder index nodes) : holder ∈ other.above := by
  obtain ⟨j, n, -, hline⟩ := exists_child_of_mem_placesBelow nodes h
  rcases List.mem_cons.1 hline with rfl | hmem
  · exact Place.mem_line_self holder
  · cases other with
    | root m => simp [Place.above] at hmem
    | child parent i m =>
      exact Place.line_subset hmem holder (List.mem_cons_of_mem _ (Place.mem_line_self holder))

mutual

theorem nodup_placesAt (place : Place) : (node : Node) → (placesAt place node).Nodup
  | ⟨_, _, _, _, children, _⟩ => by
    rw [placesAt, List.nodup_cons]
    refine ⟨fun h => ?_, nodup_placesBelow place 0 children⟩
    have := Place.length_above_lt (mem_above_of_mem_placesBelow h)
    omega

theorem nodup_placesBelow (holder : Place) (index : Nat) :
    (nodes : List Node) → (placesBelow holder index nodes).Nodup
  | [] => by simp [placesBelow]
  | n :: rest => by
    rw [placesBelow]
    refine List.nodup_append.2
      ⟨nodup_placesAt _ n, nodup_placesBelow holder (index + 1) rest, ?_⟩
    -- A place below two children of one node would have both on its way up, at the same depth.
    rintro a ha b hb rfl
    obtain ⟨j, m, hj, hline⟩ := exists_child_of_mem_placesBelow rest hb
    have heq := Place.eq_of_mem_line (mem_line_of_mem_placesAt n ha) hline rfl
    injection heq with _ hindex
    omega

end

/-- No place of a tree is listed twice. -/
theorem nodup_places (tree : Node) : (places tree).Nodup := nodup_placesAt _ tree

end Node

/-! ## Declarations -/

/-- Whether a setting lists a word. A setting in which nothing can be looked for lists none. -/
def Json.lists (setting : Json) (word : String) : Bool := (setting.holds word).toOption.getD false

/-- Words can be looked for in the setting: it is a list, a table or a text. -/
def Json.Searchable : Json → Prop
  | .list _ | .table _ | .text _ => True
  | _ => False

theorem Json.lists_of_holds {setting : Json} {word : String} {found : Bool}
    (h : setting.holds word = .ok found) : setting.lists word = found := by
  rw [lists, h]
  rfl

theorem Json.Searchable.holds_eq {setting : Json} (h : setting.Searchable) (word : String) :
    setting.holds word = .ok (setting.lists word) := by
  cases setting with
  | list items => rfl
  | table fields => rfl
  | text s => rfl
  | null => exact h.elim
  | bool b => exact h.elim
  | int n => exact h.elim

namespace LanguageEntry

/-- Whether a node declares a type. -/
def declaresType (entry : LanguageEntry) (node : Node) : Bool := entry.classNodes.lists node.kind

/-- Whether a node declares a type or a function. -/
def declares (entry : LanguageEntry) (node : Node) : Bool :=
  entry.declaresType node || entry.functionNodes.lists node.kind

/-- The name that a node declares: the characters of the text at its first child that names
declarations, unless there are none. -/
def nameIn? (entry : LanguageEntry) (text : String) (node : Node) : Option String :=
  match node.children.find? fun child => entry.nameNodes.lists child.kind with
  | none => none
  | some child =>
    let name := Text.slice text child.start child.stop
    if name.isEmpty then none else some name

/-- Whether a node declares a type or a function, but no name for it. -/
def hides (entry : LanguageEntry) (text : String) (node : Node) : Bool :=
  entry.declares node && (entry.nameIn? text node).isNone

/-- Whether a place is that of a declaration with a name, and all declarations around it have
names. -/
def shows (entry : LanguageEntry) (text : String) (place : Place) : Bool :=
  entry.declares place.node && !place.line.any fun p => entry.hides text p.node

/-- The nearest declaration around a place. -/
def holderOf? (entry : LanguageEntry) (place : Place) : Option Place :=
  place.above.find? fun p => entry.declares p.node

/-- What the declaration at a place is: a type, or else a method when a type is declared around it,
or else a function. -/
def kindAt (entry : LanguageEntry) (place : Place) : SymbolKind :=
  if entry.declaresType place.node then .classType
  else if place.above.any fun p => entry.declaresType p.node then .method
  else .function

end LanguageEntry

/-! ## Arrangements -/

/-- A place with the places that belong to it. -/
structure Arrangement where
  /-- The place. -/
  place : Place
  /-- The arrangements that belong to it. -/
  parts : List Arrangement

namespace Arrangement

mutual

/-- The places of an arrangement, every place before those that belong to it. -/
def preorder (arrangement : Arrangement) : List Place :=
  match arrangement with
  | ⟨place, parts⟩ => place :: preorderAll parts

/-- The places of some arrangements. -/
def preorderAll : List Arrangement → List Place
  | [] => []
  | arrangement :: rest => preorder arrangement ++ preorderAll rest

end

@[simp] theorem preorderAll_append (xs ys : List Arrangement) :
    preorderAll (xs ++ ys) = preorderAll xs ++ preorderAll ys := by
  induction xs with
  | nil => simp [preorderAll]
  | cons x xs ih => simp [preorderAll, ih]

/-- The arrangement stands under the nearest declaration around its place, and so do the
arrangements that belong to it. -/
inductive Nested (entry : LanguageEntry) : Option Place → Arrangement → Prop
  /-- The arrangement of a place with its parts. -/
  | mk {place : Place} {parts : List Arrangement} {holder : Option Place}
    (standsUnder : entry.holderOf? place = holder)
    (inside : ∀ part ∈ parts, Nested entry (some place) part) : Nested entry holder ⟨place, parts⟩

end Arrangement

namespace LanguageEntry

variable (entry : LanguageEntry) (text : String)

mutual

/-- The arrangement of a node that stands at `place`. -/
def arrangementAt (place : Place) (node : Node) : List Arrangement :=
  match node with
  | ⟨kind, start, stop, row, children, roles⟩ =>
    if entry.declares ⟨kind, start, stop, row, children, roles⟩ then
      if entry.hides text ⟨kind, start, stop, row, children, roles⟩ then []
      else [⟨place, arrangementBelow place 0 children⟩]
    else arrangementBelow place 0 children

/-- The arrangements of the children of `holder` from the one with that index on. -/
def arrangementBelow (holder : Place) (index : Nat) : List Node → List Arrangement
  | [] => []
  | node :: rest =>
    arrangementAt (.child holder index node) node ++ arrangementBelow holder (index + 1) rest

end

/-- The arrangement of a tree. -/
def arrangement (tree : Node) : List Arrangement := entry.arrangementAt text (.root tree) tree

variable {entry text}

theorem hides_of_nameIn?_eq_none {node : Node} (hdeclares : entry.declares node)
    (hname : entry.nameIn? text node = none) : entry.hides text node = true := by
  simp [hides, hdeclares, hname]

theorem not_hides_of_nameIn?_eq_some {node : Node} {name : String}
    (hname : entry.nameIn? text node = some name) : entry.hides text node = false := by
  simp [hides, hname]

theorem not_hides_of_not_declares {node : Node} (h : entry.declares node = false) :
    entry.hides text node = false := by
  simp [hides, h]

/-- Nothing is shown of a declaration without a name. -/
theorem arrangementAt_of_unnamed {place : Place} {node : Node} (hdeclares : entry.declares node)
    (hname : entry.nameIn? text node = none) : entry.arrangementAt text place node = [] := by
  cases node
  rw [arrangementAt, if_pos hdeclares, if_pos (hides_of_nameIn?_eq_none hdeclares hname)]

/-- A declaration with a name holds what is declared below it. -/
theorem arrangementAt_of_named {place : Place} {node : Node} {name : String}
    (hdeclares : entry.declares node) (hname : entry.nameIn? text node = some name) :
    entry.arrangementAt text place node =
      [⟨place, entry.arrangementBelow text place 0 node.children⟩] := by
  cases node
  rw [arrangementAt, if_pos hdeclares, not_hides_of_nameIn?_eq_some hname]
  rfl

/-- A node that declares nothing is passed through. -/
theorem arrangementAt_of_not_declares {place : Place} {node : Node}
    (h : entry.declares node = false) :
    entry.arrangementAt text place node = entry.arrangementBelow text place 0 node.children := by
  cases node
  rw [arrangementAt, h]
  rfl

/-- Nothing below a declaration without a name is shown. -/
theorem filter_placesBelow_of_hides {holder : Place} (h : entry.hides text holder.node)
    (index : Nat) (nodes : List Node) :
    (Node.placesBelow holder index nodes).filter (entry.shows text) = [] := by
  rw [List.filter_eq_nil_iff]
  intro place hmem
  have habove := Node.mem_above_of_mem_placesBelow hmem
  have hany : place.line.any (fun p => entry.hides text p.node) = true :=
    List.any_eq_true.2 ⟨holder, List.mem_cons_of_mem _ habove, h⟩
  simp [shows, hany]

mutual

theorem preorderAll_arrangementAt (place : Place) :
    (node : Node) → place.node = node →
      (place.above.any fun p => entry.hides text p.node) = false →
      Arrangement.preorderAll (entry.arrangementAt text place node) =
        (Node.placesAt place node).filter (entry.shows text)
  | ⟨kind, start, stop, row, children, roles⟩, hnode, habove => by
    rw [Node.placesAt, List.filter_cons]
    generalize hn : (⟨kind, start, stop, row, children, roles⟩ : Node) = node at hnode
    have hchildren : node.children = children := by rw [← hn]
    -- No declaration above is without a name, so the place is shown unless its own node hides it.
    cases hdeclares : entry.declares node with
    | false =>
      have hhides : entry.hides text node = false := not_hides_of_not_declares hdeclares
      have hshows : entry.shows text place = false := by simp [shows, hnode, hdeclares]
      have hline : (place.line.any fun p => entry.hides text p.node) = false := by
        simp [Place.line, hnode, hhides, habove]
      rw [arrangementAt_of_not_declares hdeclares, hchildren, hshows,
        preorderAll_arrangementBelow place 0 children hline]
      rfl
    | true =>
      cases hname : entry.nameIn? text node with
      | none =>
        have hhides := hides_of_nameIn?_eq_none hdeclares hname
        have hshows : entry.shows text place = false := by simp [shows, Place.line, hnode, hhides]
        rw [arrangementAt_of_unnamed hdeclares hname, hshows,
          filter_placesBelow_of_hides (by rw [hnode]; exact hhides)]
        rfl
      | some name =>
        have hhides := not_hides_of_nameIn?_eq_some hname
        have hline : (place.line.any fun p => entry.hides text p.node) = false := by
          simp [Place.line, hnode, hhides, habove]
        have hshows : entry.shows text place = true := by simp [shows, hline, hnode, hdeclares]
        rw [arrangementAt_of_named hdeclares hname, hchildren, hshows, if_pos rfl,
          Arrangement.preorderAll, Arrangement.preorder,
          preorderAll_arrangementBelow place 0 children hline, Arrangement.preorderAll,
          List.append_nil]

theorem preorderAll_arrangementBelow (holder : Place) (index : Nat) :
    (nodes : List Node) → (holder.line.any fun p => entry.hides text p.node) = false →
      Arrangement.preorderAll (entry.arrangementBelow text holder index nodes) =
        (Node.placesBelow holder index nodes).filter (entry.shows text)
  | [], _ => rfl
  | node :: rest, hline => by
    rw [arrangementBelow, Node.placesBelow, List.filter_append, Arrangement.preorderAll_append,
      preorderAll_arrangementAt (.child holder index node) node rfl hline,
      preorderAll_arrangementBelow holder _ rest hline]

end

/-- The arrangement lists the places that are shown, in their order in the tree. -/
theorem preorder_arrangement (tree : Node) :
    Arrangement.preorderAll (entry.arrangement text tree) = tree.places.filter (entry.shows text) :=
  preorderAll_arrangementAt (.root tree) tree rfl rfl

mutual

theorem nested_arrangementAt (place : Place) :
    (node : Node) → place.node = node →
      ∀ o ∈ entry.arrangementAt text place node, o.Nested entry (entry.holderOf? place)
  | ⟨kind, start, stop, row, children, roles⟩, hnode => by
    have hbelow := nested_arrangementBelow place 0 children
    generalize hn : (⟨kind, start, stop, row, children, roles⟩ : Node) = node at hnode
    have hchildren : node.children = children := by rw [← hn]
    rw [← hchildren] at hbelow
    -- A node that declares nothing passes its holder on; a declaration becomes the holder itself.
    cases hdeclares : entry.declares node with
    | false =>
      have hline : (place.line.find? fun p => entry.declares p.node) = entry.holderOf? place := by
        rw [Place.line, List.find?_cons, hnode, hdeclares, holderOf?]
      rw [arrangementAt_of_not_declares hdeclares, ← hline]
      exact hbelow
    | true =>
      have hline : (place.line.find? fun p => entry.declares p.node) = some place := by
        rw [Place.line, List.find?_cons, hnode, hdeclares]
      rw [hline] at hbelow
      cases hname : entry.nameIn? text node with
      | none =>
        rw [arrangementAt_of_unnamed hdeclares hname]
        exact fun o ho => absurd ho List.not_mem_nil
      | some name =>
        rw [arrangementAt_of_named hdeclares hname]
        intro o ho
        rw [List.mem_singleton.1 ho]
        exact .mk rfl hbelow

theorem nested_arrangementBelow (holder : Place) (index : Nat) :
    (nodes : List Node) → ∀ o ∈ entry.arrangementBelow text holder index nodes,
      o.Nested entry (holder.line.find? fun p => entry.declares p.node)
  | [] => fun o ho => absurd ho List.not_mem_nil
  | node :: rest => by
    intro o ho
    rw [arrangementBelow] at ho
    rcases List.mem_append.1 ho with hnode | hrest
    · exact nested_arrangementAt (.child holder index node) node rfl o hnode
    · exact nested_arrangementBelow holder (index + 1) rest o hrest

end

/-- Each place of an arrangement stands under the nearest declaration around it. -/
theorem nested_arrangement (tree : Node) : ∀ o ∈ entry.arrangement text tree, o.Nested entry none :=
  nested_arrangementAt (.root tree) tree rfl

end LanguageEntry

end SourceOutline
