/-
  VirtualService/Proofs/Elements.lean
  ===================================
  **What becomes of an XML element.**

  An element with attributes or child elements becomes an object in which nothing of
  it is lost (`Xml.Describes`): the attributes, the child elements by name and in
  document order, and the text.  The object is filled in one pass, with all three
  kinds of members in one dictionary.  They cannot get in each other's way, because
  no name that the parser reads begins with the mark of an attribute or of the text
  (`Xml.Named`), and a child that comes again is told from an array because no
  element becomes an array.
-/
import Mathlib.Data.List.Nodup
import Mathlib.Tactic.Tauto
import VirtualService.Proofs.Gathering
import VirtualService.Xml.ToJson

namespace VirtualService.Xml

/-! ### Parts of an element -/

/-- The child elements with their local names, in document order. -/
def elementsOf (children : List Node) : List (String × Node) :=
  children.filterMap fun node =>
    match node with
    | .element name spaces attributes below =>
        some (name.localPart, .element name spaces attributes below)
    | _ => none

/-- The pieces of text directly in an element. -/
def textsOf (children : List Node) : List String :=
  children.filterMap fun node =>
    match node with
    | .text content => some content
    | _ => none

theorem childPairs_eq (children : List Node) :
    childPairs children = (elementsOf children).map fun child => (child.1, child.2.toJson) := by
  induction children with
  | nil => rw [childPairs]; rfl
  | cons node rest ih =>
    cases node with
    | element name spaces attributes below =>
      rw [childPairs, ih]
      rfl
    | text content | comment content | instruction target content =>
      simpa [childPairs, elementsOf] using ih

theorem joinedText_eq (children : List Node) :
    joinedText children = String.join (textsOf children) := by
  induction children with
  | nil => rfl
  | cons node rest ih =>
    cases node with
    | text content =>
      rw [joinedText, ih]
      simp [textsOf, String.join_cons]
    | _ => exact ih

/-- A node is another, or stands somewhere in it. -/
inductive Within (node : Node) : Node → Prop
  | self : Within node node
  | child {name : Name} {spaces : List (String × String)} {attributes : List Attribute}
      {children : List Node} {other : Node} (mem : other ∈ children) (below : Within node other) :
      Within node (.element name spaces attributes children)

theorem Within.trans {node inner outer : Node} (first : Within node inner)
    (second : Within inner outer) : Within node outer := by
  induction second with
  | self => exact first
  | child mem _ ih => exact .child mem ih

/-! ### Names that are read -/

/-- A name begins with neither of the marks that tell attributes and text from child elements. -/
def Plain (name : String) : Prop := name.toList.head? ≠ some '@' ∧ name.toList.head? ≠ some '#'

/-- All elements in a tree have plain names. -/
def Named (node : Node) : Prop :=
  ∀ name spaces attributes children, Within (.element name spaces attributes children) node →
    Plain name.localPart

theorem named_element {name : Name} (plain : Plain name.localPart)
    (spaces : List (String × String)) (attributes : List Attribute) {children : List Node}
    (below : ∀ child ∈ children, Named child) :
    Named (.element name spaces attributes children) := by
  intro name' spaces' attributes' children' within
  cases within with
  | self => exact plain
  | child mem inside => exact below _ mem _ _ _ _ inside

theorem named_of_not_element {node : Node} (other : node.isElement = false) : Named node := by
  intro name spaces attributes children within
  cases within with
  | self => cases other
  | child mem inside => cases other

theorem plain_of_plainName {cs rest : List Char} {name : String}
    (read : plainName? cs = some (name, rest)) : Plain name := by
  cases cs with
  | nil => cases read
  | cons c cs =>
    rw [plainName?] at read
    by_cases starts : isNameStart c = true
    · rw [if_pos starts] at read
      cases read
      have first : (String.ofList (c :: cs.takeWhile isNameChar)).toList.head? = some c := by
        rw [String.toList_ofList]
        rfl
      constructor <;> rw [first] <;> intro same <;> cases same <;> exact absurd starts (by decide)
    · rw [if_neg starts] at read
      cases read

theorem plain_of_name {cs rest : List Char} {written : WrittenName}
    (read : name? cs = some (written, rest)) : Plain written.2 := by
  rw [name?] at read
  split at read
  · cases read
  · next first more firstRead =>
    split at read
    · split at read
      · next second rest secondRead =>
        cases read
        exact plain_of_plainName secondRead
      · cases read
        exact plain_of_plainName firstRead
    · cases read
      exact plain_of_plainName firstRead

theorem localPart_elementName {spaces : Spaces} {written : WrittenName} {name : Name}
    (known : spaces.elementName? written = some name) : name.localPart = written.2 := by
  obtain ⟨qualifier, localPart⟩ := written
  cases qualifier with
  | none =>
    cases known
    rfl
  | some q =>
    rw [Spaces.elementName?] at known
    obtain ⟨uri, -, rfl⟩ := Option.map_eq_some_iff.mp known
    rfl

/-- What comes from a comment, an instruction or a marked section is no element. -/
theorem comment_not_element {cs rest : List Char} {node : Node}
    (read : comment? cs = some (node, rest)) : node.isElement = false := by
  unfold comment? at read
  split at read
  · obtain ⟨rest, -, equal⟩ := Option.map_eq_some_iff.mp read
    cases equal
    rfl
  · cases read

theorem instruction_not_element {cs rest : List Char} {node : Node}
    (read : instruction? cs = some (node, rest)) : node.isElement = false := by
  unfold instruction? at read
  split at read
  · cases read
  · dsimp only at read
    split at read
    · split at read
      · split at read
        · cases read
        · cases read
          rfl
      · cases read
    · split at read
      · split at read
        · cases read
        · cases read
          rfl
      · cases read

theorem section_not_element {cs rest : List Char} {node : Node}
    (read : section? cs = some (node, rest)) : node.isElement = false := by
  obtain ⟨cut, -, equal⟩ := Option.map_eq_some_iff.mp read
  cases equal
  rfl

/-- An element that is read has a plain name, and its children are read as content. -/
theorem element_read {fuel : Nat} {spaces : Spaces} {cs rest : List Char} {node : Node}
    (read : element? (fuel + 1) spaces cs = some (node, rest)) :
    ∃ name prefixed attributes children,
      node = .element name prefixed attributes children ∧ Plain name.localPart ∧
        (children = [] ∨
          ∃ inner start behind, content? fuel inner start = some (children, behind)) := by
  rw [element?] at read
  split at read
  · cases read
  · next written behind nameRead =>
    split at read
    · cases read
    · split at read
      · cases read
      · split at read
        · next name attributes known _ =>
          have plain : Plain name.localPart := by
            rw [localPart_elementName known]
            exact plain_of_name nameRead
          split at read
          · cases read
            exact ⟨_, _, _, _, rfl, plain, .inl rfl⟩
          · split at read
            · cases read
            · next children behind contentRead =>
              obtain ⟨rest, -, equal⟩ := Option.map_eq_some_iff.mp read
              cases equal
              exact ⟨_, _, _, _, rfl, plain, .inr ⟨_, _, _, contentRead⟩⟩
        · cases read

/-- One node in front of those that follow. -/
theorem named_next {step : Option (Node × List Char)} {nodes : List Node} {rest : List Char}
    {more : List Char → Option (List Node × List Char)}
    (read : (match step with
      | none => none
      | some (node, rest) => (more rest).map fun (nodes, rest) => (node :: nodes, rest)) =
        some (nodes, rest))
    (first : ∀ node rest, step = some (node, rest) → Named node)
    (later : ∀ cs nodes rest, more cs = some (nodes, rest) → ∀ node ∈ nodes, Named node) :
    ∀ node ∈ nodes, Named node := by
  cases step with
  | none => cases read
  | some pair =>
    obtain ⟨node, behind⟩ := pair
    obtain ⟨⟨others, rest'⟩, there, equal⟩ := Option.map_eq_some_iff.mp read
    cases equal
    intro other mem
    rcases List.mem_cons.mp mem with rfl | mem
    · exact first other behind rfl
    · exact later behind others _ there other mem

/-- Whatever is read has plain names throughout. -/
theorem named_read (fuel : Nat) :
    (∀ spaces cs node rest, element? fuel spaces cs = some (node, rest) → Named node) ∧
    ∀ spaces cs nodes rest, content? fuel spaces cs = some (nodes, rest) →
      ∀ node ∈ nodes, Named node := by
  induction fuel with
  | zero =>
    constructor
    · intro spaces cs node rest read
      cases read
    · intro spaces cs nodes rest read
      cases read
  | succ fuel ih =>
    obtain ⟨element, content⟩ := ih
    constructor
    · intro spaces cs node rest read
      obtain ⟨name, prefixed, attributes, children, rfl, plain, below⟩ := element_read read
      rcases below with rfl | ⟨inner, start, behind, contentRead⟩
      · exact named_element plain _ _ nofun
      · exact named_element plain _ _ (content _ _ _ _ contentRead)
    · intro spaces cs nodes rest read
      unfold content? at read
      dsimp only at read
      split at read
      · cases read
      · cases read
        nofun
      · exact named_next read
          (fun _ _ made => named_of_not_element (comment_not_element made)) (content spaces)
      · exact named_next read
          (fun _ _ made => named_of_not_element (section_not_element made)) (content spaces)
      · exact named_next read
          (fun _ _ made => named_of_not_element (instruction_not_element made)) (content spaces)
      · exact named_next read (element spaces _) (content spaces)
      · refine named_next read (fun node rest made => ?_) (content spaces)
        obtain ⟨cut, -, equal⟩ := Option.map_eq_some_iff.mp made
        cases equal
        exact named_of_not_element rfl
      · split at read
        · cases read
        · next text behind _ _ =>
          refine @named_next (some (.text (String.ofList text), behind)) nodes rest _ read
            (fun node rest made => ?_) (content spaces)
          cases made
          exact named_of_not_element rfl

/-! ### The top of a document -/

/-- One node in front of the others at the top. -/
theorem top_next {fuel : Nat} {rooted : Bool} {step : Option (Node × List Char)} {nodes : List Node}
    (read : (match step with
      | none => none
      | some (node, rest) => (top? fuel rooted rest).map fun nodes => node :: nodes) =
        some nodes) :
    ∃ node rest others, step = some (node, rest) ∧ top? fuel rooted rest = some others ∧
      nodes = node :: others := by
  cases step with
  | none => cases read
  | some pair =>
    obtain ⟨node, rest⟩ := pair
    obtain ⟨others, there, rfl⟩ := Option.map_eq_some_iff.mp read
    exact ⟨node, rest, others, rfl, there, rfl⟩

/-- Names at the top are plain as well, and an element that is still missing is read. -/
theorem top_read {fuel : Nat} {rooted : Bool} {cs : List Char} {nodes : List Node}
    (read : top? fuel rooted cs = some nodes) :
    (∀ node ∈ nodes, Named node) ∧ (rooted = false → ∃ node ∈ nodes, node.isElement = true) := by
  induction fuel generalizing rooted cs nodes with
  | zero => cases read
  | succ fuel ih =>
    have other {step : Option (Node × List Char)}
        (noElement : ∀ node rest, step = some (node, rest) → node.isElement = false) :
        (∃ node rest others, step = some (node, rest) ∧ top? fuel rooted rest = some others ∧
          nodes = node :: others) →
        (∀ node ∈ nodes, Named node) ∧
          (rooted = false → ∃ node ∈ nodes, node.isElement = true) := by
      rintro ⟨node, rest, others, made, more, rfl⟩
      obtain ⟨named, root⟩ := ih more
      constructor
      · intro later mem
        rcases List.mem_cons.mp mem with rfl | mem
        · exact named_of_not_element (noElement _ _ made)
        · exact named later mem
      · intro missing
        obtain ⟨element, mem, isElement⟩ := root missing
        exact ⟨element, List.mem_cons_of_mem _ mem, isElement⟩
    unfold top? at read
    dsimp only at read
    split at read
    · by_cases found : rooted = true
      · rw [if_pos found] at read
        cases read
        exact ⟨nofun, fun missing => absurd (found.symm.trans missing) (by decide)⟩
      · rw [if_neg found] at read
        cases read
    · exact other (fun _ _ made => comment_not_element made) (top_next read)
    · exact other (fun _ _ made => instruction_not_element made) (top_next read)
    · next rest _ _ _ =>
      by_cases found : rooted = true
      · rw [if_pos found] at read
        cases read
      · rw [if_neg found] at read
        obtain ⟨node, behind, others, made, more, rfl⟩ := top_next read
        constructor
        · intro later mem
          rcases List.mem_cons.mp mem with rfl | mem
          · exact (named_read _).1 _ _ _ _ made
          · exact (ih more).1 later mem
        · intro missing
          refine ⟨node, List.mem_cons_self, ?_⟩
          cases short : rest.length with
          | zero =>
            rw [short] at made
            cases made
          | succ n =>
            rw [short] at made
            obtain ⟨_, _, _, _, rfl, -, -⟩ := element_read made
            rfl
    · cases read

/-- A document has an element at its top, with plain names throughout. -/
theorem root_of_ofText {text : String} {d : Document} (read : Document.ofText? text = some d) :
    ∃ name spaces attributes children,
      d.root? = some (.element name spaces attributes children) ∧
        Named (.element name spaces attributes children) := by
  obtain ⟨nodes, there, rfl⟩ := Option.map_eq_some_iff.mp read
  obtain ⟨named, root⟩ := top_read there
  have present : (nodes.find? Node.isElement).isSome = true := List.find?_isSome.mpr (root rfl)
  obtain ⟨node, found⟩ := Option.isSome_iff_exists.mp present
  have plain : Named node := named node (List.mem_of_find?_eq_some found)
  cases node with
  | element name spaces attributes children => exact ⟨_, _, _, _, found, plain⟩
  | text content | comment content | instruction target content =>
    cases List.find?_some found

/-! ### Texts that are looked at -/

theorem isBlank_of_isSpace {c : Char} (space : isSpace c = true) : Blank.isBlank c = true := by
  unfold isSpace at space
  simp only [Bool.or_eq_true, decide_eq_true_eq] at space
  rcases space with ((rfl | rfl) | rfl) | rfl <;> decide

theorem trimStart_of_skipSpace {cs rest : List Char} (opens : skipSpace cs = '<' :: rest) :
    Blank.trimStart cs = '<' :: rest := by
  induction cs with
  | nil => cases opens
  | cons c cs ih =>
    rw [skipSpace, List.dropWhile_cons] at opens
    rw [Blank.trimStart, List.dropWhile_cons]
    by_cases space : isSpace c = true
    · rw [if_pos space] at opens
      rw [if_pos (isBlank_of_isSpace space)]
      exact ih opens
    · rw [if_neg space] at opens
      cases opens
      rfl

theorem opens_of_top {fuel : Nat} {cs : List Char} {nodes : List Node}
    (read : top? fuel false cs = some nodes) : ∃ rest, skipSpace cs = '<' :: rest := by
  cases fuel with
  | zero => cases read
  | succ fuel =>
    unfold top? at read
    dsimp only at read
    split at read
    · cases read
    · next opens => exact ⟨_, opens⟩
    · next opens => exact ⟨_, opens⟩
    · next opens => exact ⟨_, opens⟩
    · cases read

theorem opens_of_afterDeclaration (cs : List Char) :
    afterDeclaration cs = cs ∨ ∃ rest, cs = '<' :: rest := by
  cases cs with
  | nil => exact .inl rfl
  | cons c cs =>
    by_cases opens : c = '<'
    · exact .inr ⟨cs, by rw [opens]⟩
    · left
      have different : ¬ '<' = c := fun same => opens same.symm
      simp [afterDeclaration, after?, different]

/-- A text that can be read is looked at. -/
theorem toJson_of_ofText {text : String} {d : Document} (read : Document.ofText? text = some d) :
    toJson? text = d.toJson? := by
  have opens : ∃ rest, Blank.trimStart text.toList = '<' :: rest := by
    obtain ⟨nodes, there, -⟩ := Option.map_eq_some_iff.mp read
    rcases opens_of_afterDeclaration text.toList with same | ⟨rest, same⟩
    · rw [same] at there
      obtain ⟨rest, first⟩ := opens_of_top there
      exact ⟨rest, trimStart_of_skipSpace first⟩
    · rw [same]
      exact ⟨rest, rfl⟩
  obtain ⟨rest, opens⟩ := opens
  rw [toJson?, opens, read]
  rfl

/-! ### Members of an object -/

/-- The text of an element without the blanks at its ends. -/
def trimmedText (children : List Node) : List Char :=
  Blank.trim (String.join (textsOf children)).toList

variable {attributes : List Attribute} {children : List Node}

theorem toJson_element (name : Name) (spaces : List (String × String))
    (attributes : List Attribute) (children : List Node) :
    Node.toJson (.element name spaces attributes children) =
      valueOf (Json.gatherAll (attributeMembers attributes) (childPairs children))
        (String.join (textsOf children)) := by
  rw [Node.toJson, joinedText_eq]

/-- An element becomes a text or an object, never an array. -/
theorem single_valueOf (members : Dict Json) (text : String) : (valueOf members text).Single := by
  unfold valueOf
  dsimp only
  split
  · exact Json.single_str text
  · split
    · exact Json.single_obj _
    · exact Json.single_obj _

theorem single_of_mem_childPairs : ∀ entry ∈ childPairs children, entry.2.Single := by
  rw [childPairs_eq]
  intro entry mem
  obtain ⟨child, there, rfl⟩ := List.mem_map.mp mem
  obtain ⟨node, -, made⟩ := List.mem_filterMap.mp there
  cases node with
  | element name spaces attributes below =>
    cases made
    rw [toJson_element]
    exact single_valueOf _ _
  | _ => cases made

theorem plain_ne_marked {name : String} (plain : Plain name) (label : String) :
    name ≠ "@" ++ label := by
  rintro rfl
  exact plain.1 (by simp)

theorem plain_ne_text {name : String} (plain : Plain name) : name ≠ "#text" := by
  rintro rfl
  exact plain.2 (by decide)

theorem marked_ne_text (label : String) : "@" ++ label ≠ "#text" := by
  intro same
  have heads := congrArg (fun s => s.toList.head?) same
  simp at heads

theorem plain_of_child {name : Name} {spaces : List (String × String)}
    (named : Named (.element name spaces attributes children)) {key : String}
    (mem : key ∈ (elementsOf children).map Prod.fst) : Plain key := by
  obtain ⟨child, there, rfl⟩ := List.mem_map.mp mem
  obtain ⟨node, inside, made⟩ := List.mem_filterMap.mp there
  cases node with
  | element name' spaces' attributes' below =>
    cases made
    exact named _ _ _ _ (.child inside .self)
  | _ => cases made

theorem mem_attributeMembers {key : String} :
    Dict.find? (attributeMembers attributes) key ≠ none ↔
      ∃ a ∈ attributes, key = "@" ++ a.name.localPart := by
  rw [attributeMembers, Dict.find?_ofList, ← Dict.mem_keys, Dict.keys]
  simp [eq_comm]

theorem single_attribute {key : String} :
    ∀ v ∈ (Dict.find? (attributeMembers attributes) key).toList, v.Single := by
  intro v mem
  have entry := Dict.mem_ofList (Dict.mem_of_find? (Option.mem_toList.mp mem))
  obtain ⟨a, -, equal⟩ := List.mem_map.mp entry
  cases equal
  exact Json.single_str a.value

theorem find?_attribute (distinct : (attributes.map fun a => a.name.localPart).Nodup)
    {a : Attribute} (mem : a ∈ attributes) :
    Dict.find? (attributeMembers attributes) ("@" ++ a.name.localPart) = some (.str a.value) := by
  have keys : (Dict.keys (attributes.map fun a =>
      ("@" ++ a.name.localPart, Json.str a.value)).reverse).Nodup := by
    rw [Dict.keys, List.map_reverse, List.nodup_reverse, List.map_map]
    have marked := distinct.map fun a b same => (String.append_right_inj "@").mp same
    rwa [List.map_map] at marked
  rw [attributeMembers, Dict.find?_ofList]
  exact Dict.find?_of_mem keys (List.mem_reverse.mpr (List.mem_map_of_mem mem))

/-- The members of an element, before its text is added. -/
def gathered (attributes : List Attribute) (children : List Node) : Dict Json :=
  Json.gatherAll (attributeMembers attributes) (childPairs children)

theorem find?_gathered (attributes : List Attribute) (children : List Node) (key : String) :
    Dict.find? (gathered attributes children) key =
      Json.shown ((Dict.find? (attributeMembers attributes) key).toList ++
        (Dict.valuesOf key (elementsOf children)).map Node.toJson) := by
  rw [gathered,
    Json.find?_gatherAll single_attribute (Json.shown_toList _).symm single_of_mem_childPairs,
    childPairs_eq, Dict.valuesOf_map]

/-- Where no child has the name, an attribute stands. -/
theorem find?_gathered_of_not_child {key : String}
    (noChild : key ∉ (elementsOf children).map Prod.fst) :
    Dict.find? (gathered attributes children) key =
      Dict.find? (attributeMembers attributes) key := by
  rw [find?_gathered, Dict.valuesOf_eq_nil.mpr noChild, List.map_nil, List.append_nil,
    Json.shown_toList]

/-- Where no attribute can stand, the children of the name stand. -/
theorem find?_gathered_of_unmarked {key : String} (unmarked : ∀ label, key ≠ "@" ++ label) :
    Dict.find? (gathered attributes children) key =
      Json.shown ((Dict.valuesOf key (elementsOf children)).map Node.toJson) := by
  have absent : Dict.find? (attributeMembers attributes) key = none := by
    by_contra present
    obtain ⟨a, -, marked⟩ := mem_attributeMembers.mp present
    exact unmarked _ marked
  rw [find?_gathered, absent]
  rfl

theorem mem_gathered {key : String} :
    Dict.find? (gathered attributes children) key ≠ none ↔
      (∃ a ∈ attributes, key = "@" ++ a.name.localPart) ∨
        key ∈ (elementsOf children).map Prod.fst := by
  rw [find?_gathered, ← mem_attributeMembers, Ne, Json.shown_eq_none, List.append_eq_nil_iff,
    List.map_eq_nil_iff, Dict.valuesOf_eq_nil, Option.toList_eq_nil_iff]
  tauto

theorem gathered_ne_nil (parts : attributes ≠ [] ∨ elementsOf children ≠ []) :
    gathered attributes children ≠ [] := by
  intro empty
  have noKey (key : String) : Dict.find? (gathered attributes children) key = none := by
    rw [empty]
    rfl
  rcases parts with some | some
  · obtain ⟨a, mem⟩ := List.exists_mem_of_ne_nil _ some
    exact mem_gathered.mpr (.inl ⟨a, mem, rfl⟩) (noKey _)
  · obtain ⟨child, mem⟩ := List.exists_mem_of_ne_nil _ some
    exact mem_gathered.mpr (.inr (List.mem_map_of_mem mem)) (noKey _)

/-! ### What an object shows of an element -/

/-- What the object for an element has to say of it. -/
structure Describes (attributes : List Attribute) (children : List Node)
    (members : Dict Json) : Prop where
  sorted : Dict.Sorted members
  /-- There is a key for each attribute, each name of a child element, and a text that is not blank. -/
  keys (key : String) : key ∈ Dict.keys members ↔
    (∃ a ∈ attributes, key = "@" ++ a.name.localPart) ∨
      key ∈ (elementsOf children).map Prod.fst ∨ (key = "#text" ∧ trimmedText children ≠ [])
  marked (distinct : (attributes.map fun a => a.name.localPart).Nodup) (a : Attribute) :
    a ∈ attributes → Dict.find? members ("@" ++ a.name.localPart) = some (.str a.value)
  /-- A child that is the only one of its name stands there as its own value. -/
  once (name : String) (child : Node) : Dict.valuesOf name (elementsOf children) = [child] →
    Dict.find? members name = some child.toJson
  /-- Children of one name stand there in an array, in document order. -/
  several (name : String) : 2 ≤ (Dict.valuesOf name (elementsOf children)).length →
    Dict.find? members name =
      some (.arr ((Dict.valuesOf name (elementsOf children)).map Node.toJson))
  text : trimmedText children ≠ [] →
    Dict.find? members "#text" = some (.str (String.ofList (trimmedText children)))

theorem valueOf_filled {members : Dict Json} (filled : members ≠ []) (text : String) :
    ∃ all, valueOf members text = .obj all ∧ (Dict.Sorted members → Dict.Sorted all) ∧
      ∀ key, Dict.find? all key =
        if key = "#text" ∧ Blank.trim text.toList ≠ [] then
          some (.str (String.ofList (Blank.trim text.toList)))
        else Dict.find? members key := by
  unfold valueOf
  rw [if_neg (by simpa using filled)]
  by_cases empty : Blank.trim text.toList = []
  · refine ⟨members, by simp [empty], id, fun key => ?_⟩
    rw [if_neg fun both => both.2 empty]
  · refine ⟨_, by rw [if_neg (by simpa using empty)], fun sorted =>
      Dict.sorted_insert sorted _ _, fun key => ?_⟩
    rw [Dict.find?_insert]
    by_cases same : key = "#text"
    · simp [same, empty]
    · rw [if_neg (Ne.symm same), if_neg fun both => same both.1]

theorem describes_of_stands {members : Dict Json}
    (plain : ∀ key, key ∈ (elementsOf children).map Prod.fst → Plain key)
    (sorted : Dict.Sorted members)
    (stands : ∀ key, Dict.find? members key =
      if key = "#text" ∧ trimmedText children ≠ [] then
        some (.str (String.ofList (trimmedText children)))
      else Dict.find? (gathered attributes children) key) :
    Describes attributes children members := by
  have other {key : String} (different : key ≠ "#text") :
      Dict.find? members key = Dict.find? (gathered attributes children) key := by
    rw [stands, if_neg fun both => different both.1]
  have childStands {key : String} (some : Dict.valuesOf key (elementsOf children) ≠ []) :
      Dict.find? members key =
        Json.shown ((Dict.valuesOf key (elementsOf children)).map Node.toJson) := by
    have isChild : key ∈ (elementsOf children).map Prod.fst := by
      by_contra noChild
      exact some (Dict.valuesOf_eq_nil.mpr noChild)
    rw [other (plain_ne_text (plain key isChild)),
      find?_gathered_of_unmarked (plain_ne_marked (plain key isChild))]
  constructor
  case sorted => exact sorted
  case keys =>
    intro key
    rw [Dict.mem_keys, stands]
    by_cases text : key = "#text" ∧ trimmedText children ≠ []
    · rw [if_pos text]
      exact iff_of_true nofun (.inr (.inr text))
    · rw [if_neg text, mem_gathered, or_assoc.symm, or_iff_left text]
  case marked =>
    intro distinct a mem
    have noChild : "@" ++ a.name.localPart ∉ (elementsOf children).map Prod.fst :=
      fun child => plain_ne_marked (plain _ child) _ rfl
    rw [other (marked_ne_text _), find?_gathered_of_not_child noChild, find?_attribute distinct mem]
  case once =>
    intro name child only
    rw [childStands (by simp [only]), only]
    rfl
  case several =>
    intro name several
    have some : Dict.valuesOf name (elementsOf children) ≠ [] := by
      intro empty
      rw [empty] at several
      exact absurd several (by decide)
    rw [childStands some, Json.shown_several (by rwa [List.length_map])]
  case text =>
    intro some
    rw [stands, if_pos ⟨rfl, some⟩]

theorem toJson_describes {name : Name} {spaces : List (String × String)}
    (named : Named (.element name spaces attributes children))
    (parts : attributes ≠ [] ∨ elementsOf children ≠ []) :
    ∃ members, Node.toJson (.element name spaces attributes children) = .obj members ∧
      Describes attributes children members := by
  obtain ⟨members, made, sorted, stands⟩ :=
    valueOf_filled (gathered_ne_nil parts) (String.join (textsOf children))
  refine ⟨members, (toJson_element _ _ _ _).trans made, ?_⟩
  have order := sorted (Json.gatherAll_sorted (Dict.sorted_ofList _) _)
  exact describes_of_stands (fun key => plain_of_child named) order stands

theorem toJson_bare (name : Name) (spaces : List (String × String))
    (noChild : elementsOf children = []) :
    Node.toJson (.element name spaces [] children) = .str (String.join (textsOf children)) := by
  rw [toJson_element, childPairs_eq, noChild]
  rfl

/-- **Every child is kept, in order.**  Throughout a document that is read, an element without
    attributes and child elements becomes its text, and any other an object that shows its
    attributes, its child elements and its text. -/
theorem toJson_keeps_children {text : String} {d : Document}
    (read : Document.ofText? text = some d) :
    ∃ name spaces attributes children,
      d.root? = some (.element name spaces attributes children) ∧
      toJson? text = some (.obj
        [(name.localPart, Node.toJson (.element name spaces attributes children))]) ∧
      ∀ name' spaces' attributes' children',
        Within (.element name' spaces' attributes' children')
          (.element name spaces attributes children) →
        (attributes' = [] → elementsOf children' = [] →
          Node.toJson (.element name' spaces' attributes' children') =
            .str (String.join (textsOf children'))) ∧
        (attributes' ≠ [] ∨ elementsOf children' ≠ [] →
          ∃ members, Node.toJson (.element name' spaces' attributes' children') = .obj members ∧
            Describes attributes' children' members) := by
  obtain ⟨name, spaces, attributes, children, root, named⟩ := root_of_ofText read
  refine ⟨name, spaces, attributes, children, root, ?_, ?_⟩
  · rw [toJson_of_ofText read, Document.toJson?, root]
  · intro name' spaces' attributes' children' within
    constructor
    · rintro rfl noChild
      exact toJson_bare name' spaces' noChild
    · intro parts
      have namedBelow : Named (.element name' spaces' attributes' children') :=
        fun _ _ _ _ deeper => named _ _ _ _ (deeper.trans within)
      exact toJson_describes namedBelow parts

theorem mixed_children_kept :
    ∃ d members, Document.ofText? "<a x='1'> t<b/><b>2</b></a>" = some d ∧
      toJson? "<a x='1'> t<b/><b>2</b></a>" = some (.obj [("a", .obj members)]) ∧
      Dict.find? members "@x" = some (.str "1") ∧
      Dict.find? members "b" = some (.arr [.str "", .str "2"]) ∧
      Dict.find? members "#text" = some (.str "t") := by
  have read : Document.ofText? "<a x='1'> t<b/><b>2</b></a>" = some ⟨[.element ⟨none, "a", none⟩
      Spaces.top.prefixed [⟨⟨none, "x", none⟩, "1"⟩]
      [.text " t", .element ⟨none, "b", none⟩ Spaces.top.prefixed [] [],
        .element ⟨none, "b", none⟩ Spaces.top.prefixed [] [.text "2"]]]⟩ := by
    cbv
  obtain ⟨name, spaces, attributes, children, root, shown, inside⟩ := toJson_keeps_children read
  cases root
  obtain ⟨members, made, describes⟩ := (inside _ _ _ _ .self).2 (.inl nofun)
  rw [made] at shown
  refine ⟨_, members, read, shown, ?_, ?_, ?_⟩
  · exact describes.marked (by decide) ⟨⟨none, "x", none⟩, "1"⟩ List.mem_cons_self
  · rw [describes.several "b" (by decide)]
    rfl
  · exact describes.text (by decide)

end VirtualService.Xml
