import SchemaLowering.Proofs.CollapsedAliases

/-!
Looking up the remarks of a shape by the word that they start with. Remarks are sorted by kind first
and looked up by kind later, which comes to the same as choosing those that start with the word,
because no word of the vocabulary begins with another one.
-/

namespace SchemaLowering

namespace TagKind

/-- The words by which remarks are recognised. -/
def vocabulary : List String :=
  ["cost", "directive", "schema", "input", "key", "fragment", "ID"]

theorem words_all : all.map word = vocabulary := rfl

theorem mem_vocabulary_iff {text : String} :
    text ∈ vocabulary ↔ ∃ kind : TagKind, kind.word = text := by
  rw [← words_all, List.mem_map]
  constructor
  · rintro ⟨kind, _, same⟩
    exact ⟨kind, same⟩
  · rintro ⟨kind, same⟩
    exact ⟨kind, mem_all kind, same⟩

theorem ofWord?_word (kind : TagKind) : ofWord? kind.word = some kind := by
  cases found : ofWord? kind.word with
  | none =>
    have unlike := List.find?_eq_none.mp found kind (mem_all kind)
    simp at unlike
  | some other =>
    have same : other.word = kind.word := by simpa using List.find?_some found
    rw [words_apart other (mem_all other) kind (mem_all kind) (same ▸ List.prefix_refl _)]

theorem ofWord?_of_not_mem {text : String} (foreign : text ∉ vocabulary) :
    ofWord? text = none := by
  refine List.find?_eq_none.mpr fun kind _ same => foreign ?_
  exact mem_vocabulary_iff.mpr ⟨kind, by simpa using same⟩

/-- Of all kinds, in whatever order they are tried, a remark starts with the word of the one that is
its kind, and of no other. -/
theorem filter_starts {order : List TagKind} (complete : order.Perm all) (description : String) :
    order.filter (·.starts description) = (ofDescription? description).toList := by
  cases found : ofDescription? description with
  | none =>
    refine List.filter_eq_nil_iff.mpr fun kind _ => ?_
    exact List.find?_eq_none.mp found kind (mem_all kind)
  | some kind =>
    have starts := ofDescription?_eq_some_iff.mp found
    have only : ∀ other ∈ order, other.starts description = decide (other = kind) := by
      intro other _
      rw [Bool.eq_iff_iff, decide_eq_true_iff]
      exact ⟨fun startsOther => eq_of_starts startsOther starts, fun same => same ▸ starts⟩
    have once : order.count kind = 1 := by
      rw [complete.count_eq]
      cases kind with
      | _ => rfl
    rw [List.filter_congr only, List.filter_eq, once]
    rfl

end TagKind

namespace Mark

/-- The remarks of a documentation block under the reserved title, in order. -/
def remarks (documentation : Option Documentation) : List String :=
  ((documentation.getD []).filter (·.title = defaultTitle)).map (·.description)

/-- The marks that a remark gives by all words that it starts with, when the words of the kinds are
tried in some order. -/
def readings (order : List TagKind) (description : String) : List Mark :=
  (order.filter (·.starts description)).map (⟨·, description⟩)

theorem readings_eq {order : List TagKind} (complete : order.Perm TagKind.all)
    (description : String) :
    readings order description
      = ((TagKind.ofDescription? description).map (⟨·, description⟩)).toList := by
  rw [readings, TagKind.filter_starts complete, Option.toList_map]

/-- A remark gives one mark at most. -/
theorem length_readings_le {order : List TagKind} (complete : order.Perm TagKind.all)
    (description : String) : (readings order description).length ≤ 1 := by
  rw [readings_eq complete]
  exact Option.length_toList_le

/-- The marks of a documentation block are those that its remarks give, in whatever order the words
are tried. -/
theorem ofDocumentation_eq_readings {order : List TagKind} (complete : order.Perm TagKind.all)
    (documentation : Option Documentation) :
    ofDocumentation documentation = (remarks documentation).flatMap (readings order) := by
  unfold ofDocumentation remarks
  induction documentation.getD [] with
  | nil => rfl
  | cons tag rest ih =>
    by_cases titled : tag.title = defaultTitle
    · rw [List.filter_cons_of_pos (by simpa using titled), List.map_cons, List.flatMap_cons, ← ih,
        readings_eq complete, List.filterMap_cons, ofTag?, if_pos titled]
      cases TagKind.ofDescription? tag.description with
      | none => rfl
      | some kind => rfl
    · rw [List.filter_cons_of_neg (by simpa using titled), ← ih, List.filterMap_cons_none]
      rw [ofTag?, if_neg titled]

/-- The marks of a kind are made of the remarks that start with its word. -/
theorem texts_ofKind (documentation : Option Documentation) (kind : TagKind) :
    (ofKind (ofDocumentation documentation) kind).map text
      = (remarks documentation).filter kind.starts := by
  rw [ofDocumentation_eq_readings (.refl _), ofKind]
  induction remarks documentation with
  | nil => rfl
  | cons description rest ih =>
    rw [List.flatMap_cons, List.filter_append, List.map_append, ih, readings_eq (.refl _)]
    cases found : TagKind.ofDescription? description with
    | none =>
      have foreign := List.find?_eq_none.mp found kind (TagKind.mem_all kind)
      rw [List.filter_cons_of_neg foreign]
      rfl
    | some own =>
      have starts := TagKind.ofDescription?_eq_some_iff.mp found
      by_cases same : own = kind
      · subst same
        rw [List.filter_cons_of_pos starts]
        simp
      · have foreign : ¬ kind.starts description = true :=
          fun startsToo => same (TagKind.eq_of_starts starts startsToo)
        rw [List.filter_cons_of_neg foreign]
        simp [same]

end Mark

/-- Whether a remark is recognised: it has the reserved title and starts with a word of the
vocabulary. -/
def DocTag.isRecognised (tag : DocTag) : Bool :=
  tag.title = Mark.defaultTitle
    && TagKind.vocabulary.any fun word => word.toList.isPrefixOf tag.description.toList

/-- A documentation block without the remarks that are not recognised. -/
def recognised (documentation : Option Documentation) : Option Documentation :=
  documentation.map (·.filter DocTag.isRecognised)

/-- A remark that is a mark is recognised. -/
theorem DocTag.isRecognised_of_ofTag? {tag : DocTag} {mark : Mark}
    (found : Mark.ofTag? Mark.defaultTitle tag = some mark) : tag.isRecognised = true := by
  unfold Mark.ofTag? at found
  split at found
  · next titled =>
    obtain ⟨kind, ofDescription, _⟩ := Option.map_eq_some_iff.mp found
    have starts := TagKind.ofDescription?_eq_some_iff.mp ofDescription
    simp only [isRecognised, titled, decide_true, Bool.true_and, List.any_eq_true]
    exact ⟨kind.word, TagKind.mem_vocabulary_iff.mpr ⟨kind, rfl⟩, starts⟩
  · cases found

theorem Mark.ofDocumentation_recognised (documentation : Option Documentation) :
    ofDocumentation (recognised documentation) = ofDocumentation documentation := by
  have getD : (recognised documentation).getD []
      = (documentation.getD []).filter DocTag.isRecognised := by
    cases documentation with
    | none => rfl
    | some tags => rfl
  rw [ofDocumentation, ofDocumentation, getD, List.filterMap_filter]
  refine List.filterMap_congr fun tag _ => ?_
  cases found : ofTag? defaultTitle tag with
  | none => exact ite_self none
  | some mark => exact if_pos (DocTag.isRecognised_of_ofTag? found)

namespace Node

/-- The shape without the remarks that are not recognised. -/
def pruned : Node → Node
  | .alias target documentation => .alias target (recognised documentation)
  | .interface declaration =>
    .interface { declaration with documentation := recognised declaration.documentation }
  | .member (.property declaration) =>
    .member (.property { declaration with documentation := recognised declaration.documentation })
  | .member (.method declaration) =>
    .member (.method { declaration with documentation := recognised declaration.documentation })
  | node => node

theorem documentation_pruned (node : Node) :
    node.pruned.documentation = recognised node.documentation := by
  cases node with
  | member declaration =>
    cases declaration with
    | _ => rfl
  | _ => rfl

@[simp] theorem marks_pruned (node : Node) : node.pruned.marks = node.marks := by
  rw [marks, documentation_pruned, Mark.ofDocumentation_recognised, marks]

theorem docTags_word (node : Node) (kind : TagKind) :
    node.docTags kind.word = (Mark.remarks node.documentation).filter kind.starts := by
  rw [docTags, TagKind.ofWord?_word]
  exact Mark.texts_ofKind node.documentation kind

theorem docTags_of_not_mem (node : Node) {word : String} (foreign : word ∉ TagKind.vocabulary) :
    node.docTags word = [] := by
  rw [docTags, TagKind.ofWord?_of_not_mem foreign]

theorem docTag?_eq_head? (node : Node) (word : String) :
    node.docTag? word = (node.docTags word).head? := by
  unfold docTag? docTags
  cases TagKind.ofWord? word with
  | none => rfl
  | some kind =>
    rw [List.head?_map, Mark.ofKind, List.head?_filter]
    rfl

/-- Looking up the remarks of a shape by a word of the vocabulary chooses, in order, the remarks
under the reserved title that start with the word, and any other word has none. A remark has one
mark at most, by whatever order of the words; and remarks without a mark have no part in anything
that is looked up or written. -/
theorem lookups_choose_by_start (node : Node) (word : String) :
    node.docTags word
        = (if word ∈ TagKind.vocabulary then
            (Mark.remarks node.documentation).filter (word.toList.isPrefixOf ·.toList)
          else []) ∧
      node.docTag? word = (node.docTags word).head? ∧
      (node.hasDocTag word = true ↔ node.docTags word ≠ []) ∧
      (∀ order : List TagKind, order.Perm TagKind.all →
        node.marks = (Mark.remarks node.documentation).flatMap (Mark.readings order) ∧
          ∀ description, (Mark.readings order description).length ≤ 1 ∧
            order.find? (·.starts description) = TagKind.ofDescription? description) ∧
      (node.pruned.docTags word = node.docTags word ∧
        node.pruned.docTag? word = node.docTag? word ∧
        node.pruned.hasDocTag word = node.hasDocTag word) ∧
      Mark.renderCost node.pruned.marks = Mark.renderCost node.marks ∧
      Mark.renderDirectives node.pruned.marks = Mark.renderDirectives node.marks ∧
      Mark.renderKeys node.pruned.marks = Mark.renderKeys node.marks := by
  refine ⟨?_, node.docTag?_eq_head? word, ?_, ?_, ?_, by simp⟩
  · split
    · next known =>
      obtain ⟨kind, rfl⟩ := TagKind.mem_vocabulary_iff.mp known
      exact node.docTags_word kind
    · next foreign => exact node.docTags_of_not_mem foreign
  · rw [hasDocTag, docTag?_eq_head?, List.isSome_head?]
  · intro order complete
    refine ⟨Mark.ofDocumentation_eq_readings complete _, fun description => ?_⟩
    refine ⟨Mark.length_readings_le complete description, ?_⟩
    rw [← List.head?_filter, TagKind.filter_starts complete, Option.head?_toList]
  · simp [docTags, docTag?, hasDocTag]

/-- A scalar with remarks of which two are marks. -/
def stamp : Node :=
  .alias (.primitive .string)
    (some [⟨"graphql", "key id"⟩, ⟨"see", "key other"⟩, ⟨"graphql", "note"⟩,
      ⟨"graphql", "keyed by name"⟩])

theorem lookups_choose_by_start_stamp :
    stamp.docTags "key" = ["key id", "keyed by name"] ∧
      stamp.docTag? "key" = some "key id" ∧ stamp.docTags "keyed" = [] ∧
      TagKind.all.reverse.Perm TagKind.all ∧
      stamp.marks = (Mark.remarks stamp.documentation).flatMap (Mark.readings TagKind.all.reverse) ∧
      stamp.pruned.docTags "key" = ["key id", "keyed by name"] := by
  obtain ⟨chosen, first, _, unordered, ⟨pruned, _⟩, _⟩ := lookups_choose_by_start stamp "key"
  have keys : stamp.docTags "key" = ["key id", "keyed by name"] := chosen.trans (by decide +kernel)
  refine ⟨keys, ?_, ?_, List.reverse_perm _, ?_, pruned.trans keys⟩
  · rw [first, keys]
    rfl
  · exact (lookups_choose_by_start stamp "keyed").1.trans (by decide +kernel)
  · exact (unordered _ (List.reverse_perm _)).1

end Node

end SchemaLowering
