import MemberDispatch.Annotation
import Mathlib.Data.List.Pairwise
import Mathlib.Logic.Relation

/-!
# Wrappers of annotations

An annotation is stripped to its core: the bound of a variable, the type that metadata without a width
accompanies, the only alternative of a union besides no value. The type key of an annotation is that of
its core, or the reason why the core has none, and wrapping changes neither whether there is a key nor
which one.
-/

namespace MemberDispatch

namespace Annotation

def metadata : Annotation → List Metadata
  | .annotated _ metadata => metadata
  | _ => []

/-- Metadata without a width. -/
def Widthless (metadata : List Metadata) : Prop :=
  ∀ width, Metadata.width width ∉ metadata

/-- The alternatives besides the class of no value. -/
def proper (members : List Annotation) : List Annotation :=
  members.filter fun member => !member.isNoneType

/-- That the outer annotation says no more about values than the inner one. -/
inductive Wraps : Annotation → Annotation → Prop
  | bound (name : String) (bound : Annotation) : Wraps (.variable name (some bound)) bound
  | annotated {metadata : List Metadata} (widthless : Widthless metadata) (base : Annotation) :
      Wraps (.annotated base metadata) base
  | optional {members : List Annotation} {member : Annotation} (sole : proper members = [member])
      (piped : Bool) : Wraps (.union piped members) member

/-- What an annotation that wraps no other one is matched with: a key, or the reason why there is none. -/
inductive Means : Annotation → Except KeyIssue TypeKey → Prop
  | missing : Means .missing (.ok .object)
  | any : Means .any (.ok .object)
  | unbound (name : String) : Means (.variable name Option.none) (.ok .object)
  | width {before : List Metadata} (first : Widthless before) (base : Annotation) (width : Width)
      (after : List Metadata) : Means (.annotated base (before ++ .width width :: after)) (.ok (.exact width))
  | generic (aliased : Option String) (origin : ClassId) (arguments : List Annotation) :
      Means (.generic aliased origin arguments) (.ok (.cls origin))
  | cls {id : ClassId} (proper : id ≠ .builtin .noneType) : Means (.cls id) (.ok (.cls id))
  | alternatives {members : List Annotation} (several : 2 ≤ (proper members).length) (piped : Bool) :
      Means (.union piped members) (.error (.union (.union piped members)))
  | none : Means .none (.error (.noType .none))
  | noneType : Means noneType (.error (.noType noneType))
  | shared (type : Option Annotation) : Means (.shared type) (.error (.noType (.shared type)))
  | literal (values : List Term) : Means (.literal values) (.error (.noType (.literal values)))
  | named (wrapped : Bool) (name : String) :
      Means (.named wrapped name) (.error (.noType (.named wrapped name)))
  | value (term : Term) : Means (.value term) (.error (.noType (.value term)))

/-- The annotations that declarations can build, from nothing declared to wrappers of any depth. -/
inductive Built : Annotation → Prop
  | missing : Built .missing
  | any : Built .any
  | none : Built .none
  | cls (id : ClassId) : Built (.cls id)
  | unbound (name : String) : Built (.variable name Option.none)
  | bound {type : Annotation} (built : Built type) (name : String) : Built (type.variableWithin name)
  | annotated {type : Annotation} (built : Built type) (metadata : List Metadata) :
      Built (type.withMetadata metadata)
  | union {members : List Annotation} (filled : members ≠ []) (built : ∀ member ∈ members, Built member)
      (piped : Bool) : Built (unionOf piped members)
  | generic (aliased : Option String) (origin : ClassId) (arguments : List Annotation) :
      Built (.generic aliased origin arguments)
  | shared (type : Option Annotation) : Built (.shared type)
  | literal (values : List Term) : Built (.literal values)
  | named (wrapped : Bool) (name : String) : Built (.named wrapped name)
  | value (term : Term) : Built (.value term)

/-- That no annotation of a list is the same as an earlier one. -/
def Unrepeated (members : List Annotation) : Prop :=
  members.Pairwise fun earlier later => later.same earlier = false

/-- The annotations whose unions, however deep, have no repetitions and some alternative besides no
value. -/
inductive Formed : Annotation → Prop
  | missing : Formed .missing
  | any : Formed .any
  | none : Formed .none
  | cls (id : ClassId) : Formed (.cls id)
  | unbound (name : String) : Formed (.variable name Option.none)
  | bound {bound : Annotation} (formed : Formed bound) (name : String) :
      Formed (.variable name (some bound))
  | annotated {base : Annotation} (formed : Formed base) (metadata : List Metadata) :
      Formed (.annotated base metadata)
  | union {members : List Annotation} (unrepeated : Unrepeated members) (filled : proper members ≠ [])
      (formed : ∀ member ∈ members, Formed member) (piped : Bool) : Formed (.union piped members)
  | generic (aliased : Option String) (origin : ClassId) (arguments : List Annotation) :
      Formed (.generic aliased origin arguments)
  | shared (type : Option Annotation) : Formed (.shared type)
  | literal (values : List Term) : Formed (.literal values)
  | named (wrapped : Bool) (name : String) : Formed (.named wrapped name)
  | value (term : Term) : Formed (.value term)

section Metadata

variable {first second : List Metadata}

theorem firstWidth_eq_none (widthless : Widthless first) : firstWidth? first = Option.none := by
  induction first with
  | nil => rfl
  | cons item first ih =>
      cases item with
      | note text => exact ih fun width mem => widthless width (.tail _ mem)
      | width width => exact absurd List.mem_cons_self (widthless width)

theorem firstWidth_append (widthless : Widthless first) (second : List Metadata) :
    firstWidth? (first ++ second) = firstWidth? second := by
  induction first with
  | nil => rfl
  | cons item first ih =>
      cases item with
      | note text => exact ih fun width mem => widthless width (.tail _ mem)
      | width width => exact absurd List.mem_cons_self (widthless width)

theorem firstWidth_append_of_widthless (widthless : Widthless second) (first : List Metadata) :
    firstWidth? (first ++ second) = firstWidth? first := by
  induction first with
  | nil => exact firstWidth_eq_none widthless
  | cons item first ih =>
      cases item with
      | note text => exact ih
      | width width => rfl

/-- Metadata has no width or a first one. -/
theorem widthless_or_first (metadata : List Metadata) :
    Widthless metadata ∨ ∃ before width after, Widthless before ∧
      metadata = before ++ .width width :: after := by
  induction metadata with
  | nil => exact .inl fun width => List.not_mem_nil
  | cons item metadata ih =>
      cases item with
      | width width => exact .inr ⟨[], width, metadata, fun _ => List.not_mem_nil, rfl⟩
      | note text =>
          have noted {before : List Metadata} (widthless : Widthless before) :
              Widthless (.note text :: before) := by
            rintro width (_ | ⟨_, mem⟩)
            exact widthless width mem
          rcases ih with widthless | ⟨before, width, after, widthless, rfl⟩
          · exact .inl (noted widthless)
          · exact .inr ⟨.note text :: before, width, after, noted widthless, rfl⟩

end Metadata

section Unions

variable {members : List Annotation} {type : Annotation}

theorem isNoneType_iff : type.isNoneType = true ↔ type = noneType := by
  constructor
  · intro isNone
    unfold isNoneType at isNone
    split at isNone
    · rfl
    · cases isNone
  · rintro rfl
    rfl

theorem proper_cons_of_none (isNone : type.isNoneType = true) (members : List Annotation) :
    proper (type :: members) = proper members :=
  List.filter_cons_of_neg (by simp [isNone])

theorem proper_cons (isProper : type.isNoneType = false) (members : List Annotation) :
    proper (type :: members) = type :: proper members :=
  List.filter_cons_of_pos (by simp [isProper])

theorem proper_eq_nil_iff : proper members = [] ↔ members.all isNoneType = true := by
  simp [proper, List.filter_eq_nil_iff]

/-- The only key of alternatives is that of their only proper one. -/
theorem soleKey_eq (members : List Annotation) :
    soleKey members = match proper members with
      | [member] => some member.typeKey
      | _ => Option.none := by
  induction members with
  | nil => rfl
  | cons member members ih =>
      rw [soleKey]
      cases kind : member.isNoneType with
      | true => rw [if_pos rfl, ih, proper_cons_of_none kind]
      | false =>
          rw [if_neg Bool.false_ne_true, proper_cons kind]
          cases rest : proper members with
          | nil => rw [if_pos (proper_eq_nil_iff.mp rest)]
          | cons other others =>
              rw [if_neg]
              intro all
              rw [proper_eq_nil_iff.mpr all] at rest
              cases rest

/-- The key of a single alternative. -/
def sole : List Annotation → Option TypeKey
  | [member] => member.typeKey.toOption
  | _ => Option.none

theorem toOption_typeKey_union (piped : Bool) (members : List Annotation) :
    (union piped members).typeKey.toOption = sole (proper members) := by
  rw [typeKey, soleKey_eq]
  rcases proper members with _ | ⟨member, _ | _⟩ <;> rfl

theorem toOption_typeKey_singleton (type : Annotation) :
    type.typeKey.toOption = sole (proper [type]) := by
  cases kind : type.isNoneType with
  | true =>
      rw [proper_cons_of_none kind, isNoneType_iff.mp kind]
      simp [typeKey, proper, sole, Except.toOption]
  | false => rw [proper_cons kind, proper, List.filter_nil, sole]

/-- The key of an annotation is the one that its alternatives besides no value leave. -/
theorem toOption_typeKey (type : Annotation) :
    type.typeKey.toOption = sole (proper type.alternatives) := by
  cases type with
  | union piped members => exact toOption_typeKey_union piped members
  | none => simp [alternatives, proper, isNoneType, typeKey, sole, Except.toOption]
  | named wrapped name => simp [alternatives, proper, isNoneType, typeKey, sole, Except.toOption]
  | _ => exact toOption_typeKey_singleton _

end Unions

section Distinct

variable {kept members : List Annotation} {type : Annotation}

/-- The annotations with another one, unless it is the same as one of them. -/
def keep (kept : List Annotation) (type : Annotation) : List Annotation :=
  if kept.any type.same then kept else kept ++ [type]

theorem eq_of_same_noneType (equal : type.same noneType = true) : type = noneType := by
  cases type <;> simp_all [same]

theorem proper_keep_of_none (isNone : type.isNoneType = true) (kept : List Annotation) :
    proper (keep kept type) = proper kept := by
  rw [keep]
  split
  · rfl
  · rw [proper, List.filter_append, List.filter_cons_of_neg (by simp [isNone]), List.filter_nil,
      List.append_nil, proper]

theorem proper_keep (isProper : type.isNoneType = false) (kept : List Annotation) :
    proper (keep kept type) = keep (proper kept) type := by
  -- Only another proper alternative can be the same as a proper one.
  have same : (proper kept).any type.same = kept.any type.same := by
    rw [proper, List.any_filter]
    congr 1
    funext other
    cases kind : other.isNoneType with
    | false => rfl
    | true =>
        rw [isNoneType_iff.mp kind, Bool.not_true, Bool.false_and]
        cases equal : type.same noneType with
        | false => rfl
        | true =>
            rw [eq_of_same_noneType equal] at isProper
            cases isProper
  rw [keep, keep, same]
  split
  · rfl
  · rw [proper, List.filter_append, List.filter_cons_of_pos (by simp [isProper]), List.filter_nil,
      proper]

/-- Dropping repetitions and dropping the class of no value can trade places. -/
theorem proper_foldl_keep (members kept : List Annotation) :
    proper (members.foldl keep kept) = (proper members).foldl keep (proper kept) := by
  induction members generalizing kept with
  | nil => rfl
  | cons member members ih =>
      rw [List.foldl_cons, ih]
      cases kind : member.isNoneType with
      | true => rw [proper_keep_of_none kind, proper_cons_of_none kind]
      | false => rw [proper_keep kind, proper_cons kind, List.foldl_cons]

theorem unrepeated_keep (unrepeated : Unrepeated kept) (type : Annotation) :
    Unrepeated (keep kept type) := by
  rw [keep]
  split
  · exact unrepeated
  · rename_i fresh
    refine List.pairwise_append.mpr ⟨unrepeated, List.pairwise_singleton _ _, fun earlier mem later last => ?_⟩
    rw [List.mem_singleton.mp last]
    simpa using fun same => fresh (List.any_eq_true.mpr ⟨earlier, mem, same⟩)

theorem unrepeated_distinct (members : List Annotation) : Unrepeated (distinct members) := by
  have all (kept : List Annotation) (unrepeated : Unrepeated kept) :
      Unrepeated (members.foldl keep kept) := by
    induction members generalizing kept with
    | nil => exact unrepeated
    | cons member members ih => exact ih _ (unrepeated_keep unrepeated member)
  exact all [] .nil

theorem foldl_keep_eq (unrepeated : Unrepeated (kept ++ members)) :
    members.foldl keep kept = kept ++ members := by
  induction members generalizing kept with
  | nil => rw [List.foldl_nil, List.append_nil]
  | cons member members ih =>
      have fresh : ¬ kept.any member.same = true := by
        rw [List.any_eq_true]
        rintro ⟨earlier, mem, same⟩
        have differs := (List.pairwise_append.mp unrepeated).2.2 earlier mem member (.head _)
        rw [same] at differs
        cases differs
      rw [List.append_cons] at unrepeated
      rw [List.foldl_cons, keep, if_neg fresh, ih unrepeated, ← List.append_cons]

theorem mem_of_mem_foldl_keep (mem : type ∈ members.foldl keep kept) : type ∈ kept ∨ type ∈ members := by
  induction members generalizing kept with
  | nil => exact .inl mem
  | cons member members ih =>
      rcases ih mem with mem | mem
      · rw [keep] at mem
        split at mem
        · exact .inl mem
        · rcases List.mem_append.mp mem with mem | mem
          · exact .inl mem
          · exact .inr (List.mem_singleton.mp mem ▸ .head _)
      · exact .inr (.tail _ mem)

theorem mem_of_mem_distinct (mem : type ∈ distinct members) : type ∈ members :=
  (mem_of_mem_foldl_keep mem).resolve_left List.not_mem_nil

theorem distinct_ne_nil (filled : members ≠ []) : distinct members ≠ [] := by
  have grows (kept : List Annotation) (filled : kept ≠ []) (members : List Annotation) :
      members.foldl keep kept ≠ [] := by
    induction members generalizing kept with
    | nil => exact filled
    | cons member members ih =>
        apply ih
        rw [keep]
        split
        · exact filled
        · exact List.append_ne_nil_of_left_ne_nil filled _
  cases members with
  | nil => exact absurd rfl filled
  | cons member members => exact grows [member] (List.cons_ne_nil _ _) members

/-- The key of a union is the one that all alternatives of its members leave besides no value. -/
theorem toOption_typeKey_unionOf (piped : Bool) (members : List Annotation) :
    (unionOf piped members).typeKey.toOption =
      sole ((proper (members.flatMap alternatives)).foldl keep []) := by
  have dropped : proper (distinct (members.flatMap alternatives)) =
      (proper (members.flatMap alternatives)).foldl keep [] :=
    proper_foldl_keep (members.flatMap alternatives) []
  rw [← dropped, unionOf]
  split
  · rename_i single alone
    rw [alone]
    exact toOption_typeKey_singleton single
  · exact toOption_typeKey_union _ _

end Distinct

section Forming

variable {type : Annotation} {members : List Annotation}

theorem Formed.unrepeated (formed : Formed type) : Unrepeated type.alternatives := by
  cases formed with
  | union unrepeated => exact unrepeated
  | _ => exact List.pairwise_singleton _ _

theorem Formed.alternatives (formed : Formed type) : ∀ other ∈ type.alternatives, Formed other := by
  intro other mem
  cases formed with
  | union _ _ formed => exact formed other mem
  | none =>
      rw [List.mem_singleton.mp mem]
      exact .cls _
  | named wrapped name =>
      rw [List.mem_singleton.mp mem]
      exact .named true name
  | _ =>
      rw [List.mem_singleton.mp mem]
      constructor <;> assumption

theorem Formed.alternatives_ne_nil (formed : Formed type) : type.alternatives ≠ [] := by
  cases formed with
  | union _ filled =>
      rintro rfl
      exact filled rfl
  | _ => exact List.cons_ne_nil _ _

theorem Formed.variableWithin (formed : Formed type) (name : String) :
    Formed (type.variableWithin name) := by
  cases formed with
  | none => exact .unbound name
  | named wrapped other => exact .bound (.named true other) name
  | _ =>
      refine .bound ?_ name
      constructor <;> assumption

theorem Formed.withMetadata (formed : Formed type) (metadata : List Metadata) :
    Formed (type.withMetadata metadata) := by
  cases formed with
  | annotated formed first => exact .annotated formed (first ++ metadata)
  | none => exact .annotated (.cls _) metadata
  | named wrapped name => exact .annotated (.named true name) metadata
  | _ =>
      refine .annotated ?_ metadata
      constructor <;> assumption

/-- The class of no value is the only one of which nothing is left. -/
theorem proper_ne_nil (unrepeated : Unrepeated members) (filled : members ≠ [])
    (several : ∀ single, members ≠ [single]) : proper members ≠ [] := by
  intro empty
  have none : ∀ member ∈ members, member = noneType := fun member mem =>
    isNoneType_iff.mp (List.all_eq_true.mp (proper_eq_nil_iff.mp empty) member mem)
  match members, filled, several with
  | [single], _, several => exact several single rfl
  | first :: second :: members, _, _ =>
      have differs := (List.pairwise_cons.mp unrepeated).1 second (.head _)
      rw [none first (.head _), none second (.tail _ (.head _))] at differs
      cases differs

theorem formed_unionOf (filled : members ≠ []) (formed : ∀ member ∈ members, Formed member)
    (piped : Bool) : Formed (unionOf piped members) := by
  have each : ∀ other ∈ distinct (members.flatMap Annotation.alternatives), Formed other := by
    intro other mem
    obtain ⟨member, inside, mem⟩ := List.mem_flatMap.mp (mem_of_mem_distinct mem)
    exact (formed member inside).alternatives other mem
  have some : distinct (members.flatMap Annotation.alternatives) ≠ [] := by
    apply distinct_ne_nil
    rw [Ne, List.flatMap_eq_nil_iff]
    intro empty
    obtain ⟨member, inside⟩ := List.exists_mem_of_ne_nil members filled
    exact (formed member inside).alternatives_ne_nil (empty member inside)
  have unrepeated := unrepeated_distinct (members.flatMap Annotation.alternatives)
  rw [unionOf]
  split
  · rename_i single alone
    exact each single (alone ▸ .head _)
  · rename_i several
    exact .union unrepeated (proper_ne_nil unrepeated some several) each piped

theorem Built.formed (built : Built type) : Formed type := by
  induction built with
  | bound _ name ih => exact ih.variableWithin name
  | annotated _ metadata ih => exact ih.withMetadata metadata
  | union filled _ piped ih => exact formed_unionOf filled ih piped
  | _ => constructor

end Forming

section Cores

variable {outer inner core : Annotation} {outcome : Except KeyIssue TypeKey}

theorem Wraps.typeKey_eq (wraps : Wraps outer inner) : outer.typeKey = inner.typeKey := by
  cases wraps with
  | bound name => rw [typeKey]
  | annotated widthless => rw [typeKey, firstWidth_eq_none widthless]
  | optional only => rw [typeKey, soleKey_eq, only]

theorem Means.typeKey_eq (means : Means core outcome) : core.typeKey = outcome := by
  cases means with
  | width first base width after => rw [typeKey, firstWidth_append first, firstWidth?]
  | cls proper => rw [typeKey, if_neg (by simpa using proper)]
  | @alternatives members several =>
      rcases left : proper members with _ | ⟨first, _ | ⟨second, others⟩⟩
      · simp [left] at several
      · simp [left] at several
      · rw [typeKey, soleKey_eq, left]
  | _ => simp [typeKey]

/-- Every annotation has a core. -/
theorem Formed.exists_core (formed : Formed outer) :
    ∃ core, Relation.ReflTransGen Wraps outer core ∧ Means core outer.typeKey := by
  have itself {outcome : Except KeyIssue TypeKey} {type : Annotation} (means : Means type outcome) :
      ∃ core, Relation.ReflTransGen Wraps type core ∧ Means core type.typeKey :=
    ⟨type, .refl, means.typeKey_eq.symm ▸ means⟩
  have within {type inner : Annotation} (wraps : Wraps type inner)
      (reaches : ∃ core, Relation.ReflTransGen Wraps inner core ∧ Means core inner.typeKey) :
      ∃ core, Relation.ReflTransGen Wraps type core ∧ Means core type.typeKey := by
    obtain ⟨core, reaches, means⟩ := reaches
    exact ⟨core, .head wraps reaches, wraps.typeKey_eq.symm ▸ means⟩
  -- What wraps nothing is its own core; the core of anything else is that of what it wraps.
  induction formed with
  | cls id =>
      by_cases none : id = .builtin .noneType
      · exact none ▸ itself .noneType
      · exact itself (.cls none)
  | bound _ name ih => exact within (.bound name _) ih
  | annotated _ metadata ih =>
      rcases widthless_or_first metadata with widthless | ⟨before, width, after, first, rfl⟩
      · exact within (.annotated widthless _) ih
      · exact itself (.width first _ width after)
  | @union members _ filled _ piped ih =>
      rcases left : proper members with _ | ⟨member, _ | ⟨other, others⟩⟩
      · exact absurd left filled
      · have mem : member ∈ proper members := left ▸ .head _
        exact within (.optional left piped) (ih member (List.mem_filter.mp mem).1)
      · exact itself (.alternatives (by simp [left]) piped)
  | _ => exact itself (by constructor)

theorem means_of_reaches (reaches : Relation.ReflTransGen Wraps outer core) (means : Means core outcome) :
    outer.typeKey = outcome := by
  induction reaches using Relation.ReflTransGen.head_induction_on with
  | refl => exact means.typeKey_eq
  | head wraps _ ih => exact wraps.typeKey_eq.trans ih

end Cores

section Wrapping

variable {type : Annotation} {kept : List Annotation}

theorem unrepeated_proper (unrepeated : Unrepeated kept) : Unrepeated (proper kept) :=
  List.Pairwise.filter _ unrepeated

theorem foldl_keep_of_unrepeated (unrepeated : Unrepeated kept) : kept.foldl keep [] = kept :=
  foldl_keep_eq ((List.nil_append kept).symm ▸ unrepeated)

/-- No value adds nothing to the key of a union, wherever it stands among the members. -/
theorem toOption_typeKey_optional (unrepeated : Unrepeated type.alternatives) (piped : Bool)
    {nothing : Annotation} (isNothing : nothing = .none ∨ nothing = noneType) :
    (unionOf piped [type, nothing]).typeKey.toOption = type.typeKey.toOption ∧
      (unionOf piped [nothing, type]).typeKey.toOption = type.typeKey.toOption := by
  have none : nothing.alternatives = [noneType] := by
    rcases isNothing with rfl | rfl <;> rfl
  have behind : proper (type.alternatives ++ [noneType]) = proper type.alternatives := by
    rw [proper, List.filter_append]
    exact List.append_nil _
  have ahead : proper (noneType :: type.alternatives) = proper type.alternatives :=
    proper_cons_of_none rfl _
  constructor
  · rw [toOption_typeKey_unionOf, List.flatMap_cons, List.flatMap_singleton, none, behind,
      foldl_keep_of_unrepeated (unrepeated_proper unrepeated), ← toOption_typeKey]
  · rw [toOption_typeKey_unionOf, List.flatMap_cons, List.flatMap_singleton, none, List.singleton_append,
      ahead, foldl_keep_of_unrepeated (unrepeated_proper unrepeated), ← toOption_typeKey]

theorem toOption_typeKey_withMetadata {metadata : List Metadata} (widthless : Widthless metadata)
    (type : Annotation) : (type.withMetadata metadata).typeKey.toOption = type.typeKey.toOption := by
  have bare (base : Annotation) : (annotated base metadata).typeKey = base.typeKey :=
    (Wraps.annotated widthless base).typeKey_eq
  cases type with
  | annotated base first =>
      rw [withMetadata, typeKey, typeKey, firstWidth_append_of_widthless widthless]
  | none =>
      rw [withMetadata, bare]
      simp [typeKey, Except.toOption]
  | named wrapped name =>
      rw [withMetadata, bare]
      simp [typeKey, Except.toOption]
  | _ => rw [withMetadata, bare] <;> nofun

theorem typeKey_withMetadata_of_first {metadata before after : List Metadata} {width : Width}
    (first : Widthless before) (split : type.metadata ++ metadata = before ++ .width width :: after) :
    (type.withMetadata metadata).typeKey = .ok (.exact width) := by
  have accompanied (base : Annotation) :
      (annotated base (type.metadata ++ metadata)).typeKey = .ok (.exact width) :=
    split ▸ (Means.width first base width after).typeKey_eq
  cases type <;> exact accompanied _

theorem toOption_typeKey_variableWithin (some : type ≠ .none) (name : String) :
    (type.variableWithin name).typeKey.toOption = type.typeKey.toOption := by
  cases type with
  | none => exact absurd rfl some
  | named wrapped other => simp [variableWithin, asArgument, typeKey, Except.toOption]
  | _ => simp [variableWithin, asArgument, typeKey]

end Wrapping

/-- The key of an annotation that declarations can build is that of its core, and the annotation has no
key, for the reason that its core gives, exactly if the core has none. Neither an alternative without a
value, nor metadata without a width, nor a variable around the annotation changes that, and the first
width among the metadata is the key whatever it accompanies. -/
theorem typeKey_of_built {type : Annotation} (built : Built type) :
    (∀ outcome, type.typeKey = outcome ↔
      ∃ core, Relation.ReflTransGen Wraps type core ∧ Means core outcome) ∧
    (∀ piped nothing, nothing = .none ∨ nothing = noneType →
      (unionOf piped [type, nothing]).typeKey.toOption = type.typeKey.toOption ∧
      (unionOf piped [nothing, type]).typeKey.toOption = type.typeKey.toOption) ∧
    (∀ metadata, Widthless metadata →
      (type.withMetadata metadata).typeKey.toOption = type.typeKey.toOption) ∧
    (∀ name, type ≠ .none → (type.variableWithin name).typeKey.toOption = type.typeKey.toOption) ∧
    ∀ metadata before width after, Widthless before →
      type.metadata ++ metadata = before ++ .width width :: after →
      (type.withMetadata metadata).typeKey = .ok (.exact width) := by
  refine ⟨fun outcome => ⟨?_, ?_⟩, fun piped nothing isNothing => ?_, fun metadata widthless => ?_,
    fun name some => ?_, fun metadata before width after first split => ?_⟩
  · rintro rfl
    exact built.formed.exists_core
  · rintro ⟨core, reaches, means⟩
    exact means_of_reaches reaches means
  · exact toOption_typeKey_optional built.formed.unrepeated piped isNothing
  · exact toOption_typeKey_withMetadata widthless type
  · exact toOption_typeKey_variableWithin some name
  · exact typeKey_withMetadata_of_first first split

def notedList : Annotation :=
  (generic Option.none (.builtin .list) [.cls (.builtin .text)]).withMetadata [.note "n"]

def boundToNotedList : Annotation :=
  (unionOf true [notedList, .none]).variableWithin "T"

theorem typeKey_of_boundToNotedList :
    Built boundToNotedList ∧
    (∃ core, Relation.ReflTransGen Wraps boundToNotedList core ∧ Means core (.ok (.cls (.builtin .list)))) ∧
    (boundToNotedList.withMetadata [.width .int32]).typeKey = .ok (.exact .int32) := by
  have noted : Built notedList := (Built.generic _ _ _).annotated _
  have built : Built boundToNotedList := by
    unfold boundToNotedList
    refine (Built.union (List.cons_ne_nil _ _) ?_ true).bound "T"
    rintro member (_ | ⟨_, _ | ⟨_, mem⟩⟩)
    · exact noted
    · exact .none
    · cases mem
  obtain ⟨keys, _, _, _, widths⟩ := typeKey_of_built built
  exact ⟨built, (keys _).mp rfl, widths _ [] _ [] (fun _ => List.not_mem_nil) rfl⟩

end Annotation

end MemberDispatch
