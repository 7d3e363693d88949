import IotMedia.Framework.KeyedVector
import IotMedia.Framework.MachineInt
import Mathlib.Data.List.Nodup
import Mathlib.Data.String.Basic
import Mathlib.Order.Fin.Basic

namespace IotMedia.Camera

open IotMedia.Framework

/-- uint32_t. -/
abbrev TagId := Fin (2^32)

/-- The name is what c_str() gives. -/
structure VendorTag where
  tagId : TagId
  tagName : String
  tagType : Int
  deriving DecidableEq

structure VendorTagSection where
  sectionName : String
  tags : List VendorTag

structure VendorTagDescriptor where
  mTagCount : Int
  mSections : KeyedVector String Unit := .empty
  mTagToNameMap : KeyedVector TagId String := .empty
  mTagToTypeMap : KeyedVector TagId Int := .empty
  mTagToSectionMap : KeyedVector TagId Nat := .empty
  mReverseMapping : KeyedVector String (KeyedVector String TagId) := .empty

/-- Each tag that is listed with the name of its section. -/
def listed (vts : List VendorTagSection) : List (String × VendorTag) :=
  vts.flatMap fun section_ => section_.tags.map fun tag => (section_.sectionName,tag)

namespace CustomVendorTagDescriptor

def OK : Int := 0
def BAD_VALUE : Int := -22

/-- The local variables of createDescriptorFromHidl. -/
structure TagWork where
  tagArray : List TagId
  idx : Nat := 0
  sections : KeyedVector String Unit := .empty
  tagToSectionMap : KeyedVector TagId String := .empty
  desc : VendorTagDescriptor

/-- It returns BAD_VALUE, or LOG_ALWAYS_FATAL ends the process. -/
inductive TagFailure
  | badValue
  | fatal
  deriving DecidableEq

/-- `insert` of an unordered_map keeps an entry that is there. -/
def insertType (m : KeyedVector TagId Int) (tag : TagId) (type : Int) : KeyedVector TagId Int :=
  if m.valueFor tag=none then m.add tag type else m

/-- What the inner loop's body writes for a tag. -/
def TagWork.store (w : TagWork) (sectionString : String) (t : VendorTag) : TagWork where
  tagArray := w.tagArray.set w.idx t.tagId
  idx := w.idx+1
  sections := w.sections
  tagToSectionMap := w.tagToSectionMap.add t.tagId sectionString
  desc := { w.desc with
    mTagToNameMap := w.desc.mTagToNameMap.add t.tagId t.tagName
    mTagToTypeMap := insertType w.desc.mTagToTypeMap t.tagId t.tagType }

section Loops

variable (boundary : TagId)

/-- The inner loop's body; where it fails, what it has written so far is dropped. -/
def addTag (sectionString : String) (w : TagWork) (t : VendorTag) : Except TagFailure TagWork :=
  if t.tagId<boundary then .error .badValue
  else if w.tagArray.length ≤ w.idx then .error .fatal
  else if t.tagType<0 then .error .badValue
  else .ok (w.store sectionString t)

def addTags (sectionString : String) : TagWork → List VendorTag → Except TagFailure TagWork
  | w,[] => .ok w
  | w,t::ts => (addTag boundary sectionString w t).bind fun w => addTags sectionString w ts

def addSections : TagWork → List VendorTagSection → Except TagFailure TagWork
  | w,[] => .ok w
  | w,s::ss =>
    (addTags boundary s.sectionName { w with sections := w.sections.add s.sectionName () }
      s.tags).bind fun w => addSections w ss

/-- The body of the loop over tagArray. -/
def indexTag (w : TagWork) (d : VendorTagDescriptor) (tag : TagId) :
    Except TagFailure VendorTagDescriptor :=
  match w.tagToSectionMap.valueFor tag with
  | none => .error .fatal
  | some sectionString =>
    match w.sections.keys.idxOf? sectionString,d.mTagToNameMap.valueFor tag with
    | some index,some name =>
      let nameMapper := (d.mReverseMapping.valueFor sectionString).getD .empty
      .ok { d with
        mTagToSectionMap := d.mTagToSectionMap.add tag index
        mReverseMapping := d.mReverseMapping.add sectionString (nameMapper.add name tag) }
    | _,_ => .error .fatal

def indexTags (w : TagWork) :
    VendorTagDescriptor → List TagId → Except TagFailure VendorTagDescriptor
  | d,[] => .ok d
  | d,tag::tags => (indexTag w d tag).bind fun d => indexTags w d tags

/-- The int that the sizes are added up in. -/
def tagCount (vts : List VendorTagSection) : Int :=
  vts.foldl (fun n s => IntType.i32.cast (n+s.tags.length)) 0

/-- The status and what the reference leads to; none where the process ends. -/
def createDescriptorFromHidl (vts : List VendorTagSection)
    (descriptor : Option VendorTagDescriptor) : Option (Int × Option VendorTagDescriptor) :=
  let count := tagCount vts
  if count<0 ∨ 2147483647<count then some (BAD_VALUE,descriptor)
  else
    let work : TagWork :=
      { tagArray := List.replicate count.toNat 0,desc := { mTagCount := count } }
    let made := (addSections boundary work vts).bind fun w =>
      indexTags w { w.desc with mSections := w.sections } w.tagArray
    match made with
    | .ok desc => some (OK,some desc)
    | .error .badValue => some (BAD_VALUE,descriptor)
    | .error .fatal => none

end Loops

/-- Each id is listed once and none below the boundary, no type is negative, and no name stands
twice in sections of one name. -/
structure Distinct (boundary : TagId) (vts : List VendorTagSection) : Prop where
  ids : ((listed vts).map fun e => e.2.tagId).Nodup
  vendor : ∀ e∈listed vts,boundary ≤ e.2.tagId
  types : ∀ e∈listed vts,0 ≤ e.2.tagType
  names : ((listed vts).map fun e => (e.1,e.2.tagName)).Nodup

/-- The tables lead from each listed tag to what is listed for it and back, and nowhere else. -/
structure Inverse (d : VendorTagDescriptor) (vts : List VendorTagSection) : Prop where
  names : ∀ e∈listed vts,d.mTagToNameMap.valueFor e.2.tagId=some e.2.tagName
  types : ∀ e∈listed vts,d.mTagToTypeMap.valueFor e.2.tagId=some e.2.tagType
  sections : ∀ e∈listed vts,∃ i,d.mTagToSectionMap.valueFor e.2.tagId=some i ∧
    d.mSections.keys[i]?=some e.1
  reverse : ∀ e∈listed vts,∃ m,d.mReverseMapping.valueFor e.1=some m ∧
    m.valueFor e.2.tagName=some e.2.tagId
  only : ∀ s m,d.mReverseMapping.valueFor s=some m → (∃ e∈listed vts,e.1=s) ∧
    ∀ n t,m.valueFor n=some t → ∃ e∈listed vts,e.1=s ∧ e.2.tagName=n ∧ e.2.tagId=t

variable {boundary : TagId} {w w' : TagWork} {d d' : VendorTagDescriptor}
  {vts : List VendorTagSection} {sectionString : String} {tags : List VendorTag}
  {done todo : List (String × VendorTag)}

section Collecting

/-! The first pass. -/

/-- What the variables hold of the tags collected so far. -/
structure Collected (total : Nat) (done : List (String × VendorTag)) (w : TagWork) : Prop where
  length : w.tagArray.length=total
  idx : w.idx=done.length
  array : w.tagArray.take w.idx=done.map fun e => e.2.tagId
  names : ∀ e∈done,w.desc.mTagToNameMap.valueFor e.2.tagId=some e.2.tagName
  types : ∀ e∈done,w.desc.mTagToTypeMap.valueFor e.2.tagId=some e.2.tagType
  typed : ∀ tag∈w.desc.mTagToTypeMap.keys,∃ e∈done,e.2.tagId=tag
  sections : ∀ e∈done,w.tagToSectionMap.valueFor e.2.tagId=some e.1 ∧ e.1∈w.sections.keys
  reverse : w.desc.mReverseMapping=.empty

/-- One more tag of a section that has been added. -/
theorem addTag_collected {total : Nat} (hc : Collected total done w) {t : VendorTag}
    (named : sectionString∈w.sections.keys) (room : done.length<total)
    (fresh : ∀ e∈done,e.2.tagId≠t.tagId) (vendor : boundary ≤ t.tagId) (type : 0 ≤ t.tagType) :
    addTag boundary sectionString w t=.ok (w.store sectionString t) ∧
      Collected total (done++[(sectionString,t)]) (w.store sectionString t) := by
  have within : ¬w.tagArray.length ≤ w.idx := by
    have length := hc.length
    have idx := hc.idx
    omega
  have untyped : w.desc.mTagToTypeMap.valueFor t.tagId=none := by
    rw [KeyedVector.valueFor_none]
    intro mem
    obtain ⟨e,he,same⟩ := hc.typed _ mem
    exact fresh e he same
  refine ⟨by rw [addTag,if_neg vendor.not_gt,if_neg within,if_neg type.not_gt],?_⟩
  refine ⟨?_,?_,?_,?_,?_,?_,?_,hc.reverse⟩
  · simp [TagWork.store,hc.length]
  · simp [TagWork.store,hc.idx]
  · have set : (w.tagArray.set w.idx t.tagId).take (w.idx+1)=w.tagArray.take w.idx++[t.tagId] := by
      rw [List.take_add_one,List.take_set_of_le le_rfl,List.getElem?_set_self (by omega)]
      rfl
    rw [List.map_append,← hc.array]
    exact set
  · intro e he
    rw [TagWork.store,KeyedVector.valueFor_add]
    rcases List.mem_append.mp he with old|new
    · rw [if_neg (fresh e old)]
      exact hc.names e old
    · rw [List.mem_singleton.mp new,if_pos rfl]
  · intro e he
    rw [TagWork.store,insertType,if_pos untyped,KeyedVector.valueFor_add]
    rcases List.mem_append.mp he with old|new
    · rw [if_neg (fresh e old)]
      exact hc.types e old
    · rw [List.mem_singleton.mp new,if_pos rfl]
  · intro tag mem
    rw [TagWork.store,insertType,if_pos untyped,KeyedVector.mem_keys_add] at mem
    rcases mem with rfl|mem
    · exact ⟨(sectionString,t),by simp,rfl⟩
    · obtain ⟨e,he,same⟩ := hc.typed tag mem
      exact ⟨e,List.mem_append_left _ he,same⟩
  · intro e he
    rw [TagWork.store,KeyedVector.valueFor_add]
    rcases List.mem_append.mp he with old|new
    · rw [if_neg (fresh e old)]
      exact hc.sections e old
    · rw [List.mem_singleton.mp new,if_pos rfl]
      exact ⟨rfl,named⟩

/-- The ids of a list in which the next tag stands are not its own. -/
theorem fresh_of_nodup {e : String × VendorTag}
    (ids : ((done++e::todo).map fun e => e.2.tagId).Nodup) :
    ∀ e'∈done,e'.2.tagId≠e.2.tagId := by
  rw [List.map_append,List.nodup_append] at ids
  intro e' he'
  exact ids.2.2 _ (List.mem_map_of_mem he') _ (by simp)

theorem addTags_collected {total : Nat} (hc : Collected total done w)
    (named : sectionString∈w.sections.keys) (room : done.length+tags.length ≤ total)
    (ids : ((done++tags.map fun t => (sectionString,t)).map fun e => e.2.tagId).Nodup)
    (vendor : ∀ t∈tags,boundary ≤ t.tagId) (types : ∀ t∈tags,0 ≤ t.tagType) :
    ∃ w',addTags boundary sectionString w tags=.ok w' ∧
      Collected total (done++tags.map fun t => (sectionString,t)) w' := by
  induction tags generalizing w done with
  | nil => exact ⟨w,rfl,by simpa using hc⟩
  | cons t ts ih =>
    have room_here : done.length<total := by
      rw [List.length_cons] at room
      omega
    obtain ⟨added,next⟩ := addTag_collected hc named room_here (fresh_of_nodup ids)
      (vendor t List.mem_cons_self) (types t List.mem_cons_self)
    have regroup : done++(t::ts).map (fun t => (sectionString,t))=
        (done++[(sectionString,t)])++ts.map fun t => (sectionString,t) := by simp
    rw [regroup] at ids ⊢
    obtain ⟨w',rest,collected⟩ := ih next named (by simp at room ⊢; omega) ids
      (fun t ht => vendor t (List.mem_cons_of_mem _ ht))
      (fun t ht => types t (List.mem_cons_of_mem _ ht))
    refine ⟨w',?_,collected⟩
    rw [addTags,added]
    exact rest

theorem Collected.addSection {total : Nat} (hc : Collected total done w) (name : String) :
    Collected total done { w with sections := w.sections.add name () } := by
  refine ⟨hc.length,hc.idx,hc.array,hc.names,hc.types,hc.typed,?_,hc.reverse⟩
  intro e he
  obtain ⟨found,named⟩ := hc.sections e he
  exact ⟨found,(KeyedVector.mem_keys_add _ _ _ _).mpr (Or.inr named)⟩

theorem addSections_collected {total : Nat} (hc : Collected total done w)
    (room : done.length+(listed vts).length ≤ total)
    (ids : ((done++listed vts).map fun e => e.2.tagId).Nodup)
    (vendor : ∀ e∈listed vts,boundary ≤ e.2.tagId) (types : ∀ e∈listed vts,0 ≤ e.2.tagType) :
    ∃ w',addSections boundary w vts=.ok w' ∧ Collected total (done++listed vts) w' := by
  induction vts generalizing w done with
  | nil => exact ⟨w,rfl,by simpa [listed] using hc⟩
  | cons s ss ih =>
    have first : listed (s::ss)=(s.tags.map fun t => (s.sectionName,t))++listed ss := rfl
    have here {t : VendorTag} (ht : t∈s.tags) : (s.sectionName,t)∈listed (s::ss) := by
      rw [first]
      exact List.mem_append_left _ (List.mem_map_of_mem ht)
    rw [first] at room ids ⊢
    rw [← List.append_assoc] at ids ⊢
    rw [List.length_append,List.length_map] at room
    have ids_here := List.Nodup.sublist ((List.sublist_append_left _ (listed ss)).map _) ids
    obtain ⟨w',added,next⟩ := addTags_collected (hc.addSection s.sectionName)
      ((KeyedVector.mem_keys_add _ _ _ _).mpr (Or.inl rfl)) (by omega) ids_here
      (fun t ht => vendor _ (here ht)) (fun t ht => types _ (here ht))
    obtain ⟨w'',rest,collected⟩ := ih next (by simp; omega) ids
      (fun e he => vendor e (by rw [first]; exact List.mem_append_right _ he))
      (fun e he => types e (by rw [first]; exact List.mem_append_right _ he))
    refine ⟨w'',?_,collected⟩
    rw [addSections,added]
    exact rest

end Collecting

section Indexing

/-! The second pass. -/

/-- What the descriptor's maps hold of the tags indexed so far. -/
structure Indexed (sections : KeyedVector String Unit) (done : List (String × VendorTag))
    (d : VendorTagDescriptor) : Prop where
  sections : ∀ e∈done,∃ i,d.mTagToSectionMap.valueFor e.2.tagId=some i ∧
    sections.keys[i]?=some e.1
  reverse : ∀ e∈done,∃ m,d.mReverseMapping.valueFor e.1=some m ∧
    m.valueFor e.2.tagName=some e.2.tagId
  only : ∀ s m,d.mReverseMapping.valueFor s=some m → (∃ e∈done,e.1=s) ∧
    ∀ n t,m.valueFor n=some t → ∃ e∈done,e.1=s ∧ e.2.tagName=n ∧ e.2.tagId=t

theorem idxOf?_of_mem {l : List String} {a : String} (h : a∈l) :
    ∃ i,l.idxOf? a=some i ∧ l[i]?=some a := by
  cases found : l.idxOf? a with
  | none => exact absurd h (List.idxOf?_eq_none_iff.mp found)
  | some i =>
    obtain ⟨bound,same,-⟩ := List.findIdx?_eq_some_iff_getElem.mp found
    refine ⟨i,rfl,?_⟩
    rw [List.getElem?_eq_getElem bound]
    simpa using same

/-- The id that a table of tables has for a name in a section. -/
def tagNamed (r : KeyedVector String (KeyedVector String TagId)) (s n : String) : Option TagId :=
  (r.valueFor s).bind fun m => m.valueFor n

/-- One name more in the table of a section, which may be new. -/
theorem tagNamed_add (r : KeyedVector String (KeyedVector String TagId)) (s n s' n' : String)
    (t : TagId) : tagNamed (r.add s (((r.valueFor s).getD .empty).add n t)) s' n'=
      if s'=s ∧ n'=n then some t else tagNamed r s' n' := by
  unfold tagNamed
  rw [KeyedVector.valueFor_add]
  by_cases section_ : s'=s
  · subst section_
    rw [if_pos rfl,Option.bind_some,KeyedVector.valueFor_add]
    cases r.valueFor s' with
    | none => simp
    | some m => simp
  · simp [section_]

theorem indexTag_indexed {e : String × VendorTag} (hi : Indexed w.sections done d)
    (section_ : w.tagToSectionMap.valueFor e.2.tagId=some e.1) (named : e.1∈w.sections.keys)
    (name : d.mTagToNameMap.valueFor e.2.tagId=some e.2.tagName)
    (fresh : ∀ e'∈done,e'.2.tagId≠e.2.tagId)
    (other : ∀ e'∈done,(e'.1,e'.2.tagName)≠(e.1,e.2.tagName)) :
    ∃ d',indexTag w d e.2.tagId=.ok d' ∧ d'.mTagToNameMap=d.mTagToNameMap ∧
      d'.mTagToTypeMap=d.mTagToTypeMap ∧ d'.mSections=d.mSections ∧
      Indexed w.sections (done++[e]) d' := by
  obtain ⟨index,found,at_⟩ := idxOf?_of_mem named
  refine ⟨{ d with
    mTagToSectionMap := d.mTagToSectionMap.add e.2.tagId index
    mReverseMapping := d.mReverseMapping.add e.1
      (((d.mReverseMapping.valueFor e.1).getD .empty).add e.2.tagName e.2.tagId) },?_,rfl,rfl,rfl,
    ?_,?_,?_⟩
  · simp only [indexTag,section_,found,name]
  · intro e' he'
    rw [KeyedVector.valueFor_add]
    rcases List.mem_append.mp he' with old|new
    · rw [if_neg (fresh e' old)]
      exact hi.sections e' old
    · rw [List.mem_singleton.mp new,if_pos rfl]
      exact ⟨index,rfl,at_⟩
  · intro e' he'
    apply Option.bind_eq_some_iff.mp
    refine (tagNamed_add _ _ _ _ _ _).trans ?_
    rcases List.mem_append.mp he' with old|new
    · have apart : ¬(e'.1=e.1 ∧ e'.2.tagName=e.2.tagName) :=
        fun same => other e' old (Prod.ext same.1 same.2)
      rw [if_neg apart]
      exact Option.bind_eq_some_iff.mpr (hi.reverse e' old)
    · rw [List.mem_singleton.mp new,if_pos ⟨rfl,rfl⟩]
  · intro s m mapper
    have last : e∈done++[e] := by simp
    constructor
    · rw [KeyedVector.valueFor_add] at mapper
      split_ifs at mapper with same
      · exact ⟨e,last,same.symm⟩
      · obtain ⟨⟨e',he',section'⟩,-⟩ := hi.only s m mapper
        exact ⟨e',List.mem_append_left _ he',section'⟩
    · intro n t entry
      have listed : tagNamed _ s n=some t := Option.bind_eq_some_iff.mpr ⟨m,mapper,entry⟩
      rw [tagNamed_add] at listed
      split_ifs at listed with same
      · cases listed
        exact ⟨e,last,same.1.symm,same.2.symm,rfl⟩
      · obtain ⟨m',before,entry'⟩ := Option.bind_eq_some_iff.mp listed
        obtain ⟨e',he',rest⟩ := (hi.only s m' before).2 n t entry'
        exact ⟨e',List.mem_append_left _ he',rest⟩

theorem indexTags_indexed (hi : Indexed w.sections done d)
    (sections : ∀ e∈todo,w.tagToSectionMap.valueFor e.2.tagId=some e.1 ∧ e.1∈w.sections.keys)
    (names : ∀ e∈todo,d.mTagToNameMap.valueFor e.2.tagId=some e.2.tagName)
    (ids : ((done++todo).map fun e => e.2.tagId).Nodup)
    (distinct : ((done++todo).map fun e => (e.1,e.2.tagName)).Nodup) :
    ∃ d',indexTags w d (todo.map fun e => e.2.tagId)=.ok d' ∧
      d'.mTagToNameMap=d.mTagToNameMap ∧ d'.mTagToTypeMap=d.mTagToTypeMap ∧
      d'.mSections=d.mSections ∧ Indexed w.sections (done++todo) d' := by
  induction todo generalizing d done with
  | nil => exact ⟨d,rfl,rfl,rfl,rfl,by simpa using hi⟩
  | cons e todo ih =>
    obtain ⟨section_,named⟩ := sections e List.mem_cons_self
    have other : ∀ e'∈done,(e'.1,e'.2.tagName)≠(e.1,e.2.tagName) := by
      rw [List.map_append,List.nodup_append] at distinct
      intro e' he'
      exact distinct.2.2 _ (List.mem_map_of_mem (f := fun e => (e.1,e.2.tagName)) he') _ (by simp)
    obtain ⟨d',indexed,kept_names,kept_types,kept_sections,next⟩ := indexTag_indexed hi section_
      named (names e List.mem_cons_self) (fresh_of_nodup ids) other
    have regroup : done++e::todo=(done++[e])++todo := by simp
    rw [regroup] at ids distinct ⊢
    obtain ⟨d'',rest,rest_names,rest_types,rest_sections,last⟩ := ih next
      (fun e he => sections e (List.mem_cons_of_mem _ he))
      (fun e he => by rw [kept_names]; exact names e (List.mem_cons_of_mem _ he)) ids distinct
    refine ⟨d'',?_,rest_names.trans kept_names,rest_types.trans kept_types,
      rest_sections.trans kept_sections,last⟩
    rw [List.map_cons,indexTags,indexed]
    exact rest

end Indexing

section Counting

theorem tagCount_eq (vts : List VendorTagSection) :
    tagCount vts=IntType.i32.cast (listed vts).length := by
  have sum (n : Int) (held : IntType.i32.Holds n) (vts : List VendorTagSection) :
      vts.foldl (fun n s => IntType.i32.cast (n+s.tags.length)) n=
        IntType.i32.cast (n+(listed vts).length) := by
    induction vts generalizing n with
    | nil => simpa [listed] using held.symm
    | cons s ss ih =>
      have first : ((listed (s::ss)).length : Int)=s.tags.length+(listed ss).length := by
        simp [listed]
      rw [List.foldl_cons,ih _ (IntType.cast_of_wider le_rfl),first,← add_assoc]
      exact Int.bmod_add_bmod
  have counted := sum 0 (by decide) vts
  rwa [zero_add] at counted

variable {descriptor : Option VendorTagDescriptor}

/-- The guard lets through what an int can count. -/
theorem create_counted (few : (listed vts).length<2147483648) :
    createDescriptorFromHidl boundary vts descriptor=
      match (addSections boundary
          { tagArray := List.replicate (listed vts).length 0
            desc := { mTagCount := (listed vts).length } } vts).bind fun w =>
        indexTags w { w.desc with mSections := w.sections } w.tagArray with
      | .ok desc => some (OK,some desc)
      | .error .badValue => some (BAD_VALUE,descriptor)
      | .error .fatal => none := by
  have count : tagCount vts=(listed vts).length := by
    rw [tagCount_eq]
    exact IntType.i32_holds (by omega) (by omega)
  have within : ¬(((listed vts).length : Int)<0 ∨ 2147483647<((listed vts).length : Int)) := by
    omega
  rw [createDescriptorFromHidl,count]
  dsimp only
  rw [if_neg within,Int.toNat_natCast]

/-- More tags than an int can count make the count negative, until it is back at zero. -/
theorem create_overflow (many : 2147483648 ≤ (listed vts).length)
    (fewer : (listed vts).length<4294967296) :
    createDescriptorFromHidl boundary vts descriptor=some (BAD_VALUE,descriptor) := by
  have negative : tagCount vts<0 := by
    rw [tagCount_eq]
    simp only [IntType.cast,IntType.i32_signed,IntType.i32_bits,if_true,Int.bmod_def]
    omega
  exact if_pos (Or.inl negative)

end Counting

section Failing

/-- A tag array that has room for the tags to come. -/
def Roomy (w : TagWork) (n : Nat) : Prop := w.idx+n ≤ w.tagArray.length

variable (boundary) in
theorem addTags_cases (sectionString : String) (room : Roomy w tags.length) :
    addTags boundary sectionString w tags=.error .badValue ∨
    ∃ w',addTags boundary sectionString w tags=.ok w' ∧ (∀ t∈tags,boundary ≤ t.tagId) ∧
      w'.idx=w.idx+tags.length ∧ w'.tagArray.length=w.tagArray.length := by
  induction tags generalizing w with
  | nil => exact .inr ⟨w,rfl,by simp,rfl,rfl⟩
  | cons t ts ih =>
    have within : ¬w.tagArray.length ≤ w.idx := by
      rw [Roomy,List.length_cons] at room
      omega
    rw [addTags,addTag]
    split_ifs with low negative
    · exact .inl rfl
    · exact .inl rfl
    · have next : Roomy (w.store sectionString t) ts.length := by
        rw [Roomy,List.length_cons] at room
        simp only [Roomy,TagWork.store,List.length_set]
        omega
      obtain failed|⟨w',added,vendor,idx,length⟩ := ih next
      · exact .inl failed
      · refine .inr ⟨w',added,?_,?_,?_⟩
        · intro t' ht'
          rcases List.mem_cons.mp ht' with rfl|later
          · exact not_lt.mp low
          · exact vendor t' later
        · rw [idx,List.length_cons]
          simp only [TagWork.store]
          omega
        · rw [length]
          simp [TagWork.store]

variable (boundary) in
theorem addSections_cases (room : Roomy w (listed vts).length) :
    addSections boundary w vts=.error .badValue ∨
    (∃ w',addSections boundary w vts=.ok w') ∧ ∀ e∈listed vts,boundary ≤ e.2.tagId := by
  induction vts generalizing w with
  | nil => exact .inr ⟨⟨w,rfl⟩,by simp [listed]⟩
  | cons s ss ih =>
    have first : listed (s::ss)=(s.tags.map fun t => (s.sectionName,t))++listed ss := rfl
    rw [Roomy,first,List.length_append,List.length_map] at room
    have here : Roomy { w with sections := w.sections.add s.sectionName () } s.tags.length := by
      show w.idx+_ ≤ w.tagArray.length
      omega
    obtain failed|⟨w',added,vendor,idx,length⟩ := addTags_cases boundary s.sectionName here
    · left
      rw [addSections,failed]
      rfl
    · have next : Roomy w' (listed ss).length := by
        rw [Roomy,idx,length]
        show w.idx+_+_ ≤ w.tagArray.length
        omega
      rw [addSections,added]
      obtain failed|⟨made,later⟩ := ih next
      · exact .inl failed
      · refine .inr ⟨made,?_⟩
        rw [first]
        intro e he
        rcases List.mem_append.mp he with here|he
        · obtain ⟨t,ht,rfl⟩ := List.mem_map.mp here
          exact vendor t ht
        · exact later e he

end Failing

/-- Distinct tags that int can count are indexed. -/
theorem create_distinct (few : (listed vts).length<2147483648) (distinct : Distinct boundary vts)
    (descriptor : Option VendorTagDescriptor) : ∃ d,
      createDescriptorFromHidl boundary vts descriptor=some (OK,some d) ∧ Inverse d vts := by
  rw [create_counted few]
  have start : Collected (listed vts).length []
      { tagArray := List.replicate (listed vts).length 0
        desc := { mTagCount := (listed vts).length } } :=
    ⟨List.length_replicate,rfl,rfl,by simp,by simp,by simp,by simp,rfl⟩
  obtain ⟨w,added,collected⟩ := addSections_collected start (by simp)
    (by simpa using distinct.ids) distinct.vendor distinct.types
  rw [List.nil_append] at collected
  have whole : w.tagArray=(listed vts).map fun e => e.2.tagId := by
    have taken := collected.array
    rwa [collected.idx,← collected.length,List.take_length] at taken
  have none_indexed : Indexed w.sections [] { w.desc with mSections := w.sections } := by
    refine ⟨by simp,by simp,?_⟩
    intro s m mapper
    rw [collected.reverse] at mapper
    cases mapper
  obtain ⟨d,indexed,names,types,sections,last⟩ := indexTags_indexed none_indexed
    collected.sections collected.names (by simpa using distinct.ids)
    (by simpa using distinct.names)
  rw [List.nil_append] at last
  refine ⟨d,?_,?_,?_,?_,last.reverse,last.only⟩
  · rw [added]
    show (match indexTags w _ w.tagArray with
      | .ok desc => some (OK,some desc)
      | .error .badValue => some (BAD_VALUE,descriptor)
      | .error .fatal => none)=_
    rw [whole,indexed]
  · rw [names]
    exact collected.names
  · rw [types]
    exact collected.types
  · rw [sections]
    exact last.sections

/-- A tag below the boundary is refused, by the guard where int cannot count the tags. -/
theorem create_below (fewer : (listed vts).length<4294967296)
    (below : ∃ e∈listed vts,e.2.tagId<boundary) (descriptor : Option VendorTagDescriptor) :
    createDescriptorFromHidl boundary vts descriptor=some (BAD_VALUE,descriptor) := by
  rcases Nat.lt_or_ge (listed vts).length 2147483648 with few|many
  · rw [create_counted few]
    obtain ⟨e,he,low⟩ := below
    have room : Roomy { tagArray := List.replicate (listed vts).length 0,desc :=
        { mTagCount := (listed vts).length } } (listed vts).length := by simp [Roomy]
    obtain failed|⟨-,vendor⟩ := addSections_cases boundary room
    · rw [failed]
      rfl
    · exact absurd low (not_lt.mpr (vendor e he))
  · exact create_overflow many fewer

/-- Fewer than 2^31 tags that are distinct give a descriptor whose tables are inverse to each other;
where one of fewer than 2^32 tags is below the boundary there is BAD_VALUE, and the reference is
left alone. -/
theorem tables_inverse (boundary : TagId) (vts : List VendorTagSection)
    (descriptor : Option VendorTagDescriptor) :
    ((listed vts).length<2147483648 → Distinct boundary vts → ∃ d,
      createDescriptorFromHidl boundary vts descriptor=some (OK,some d) ∧ Inverse d vts) ∧
    ((listed vts).length<4294967296 → (∃ e∈listed vts,e.2.tagId<boundary) →
      createDescriptorFromHidl boundary vts descriptor=some (BAD_VALUE,descriptor)) :=
  ⟨fun few distinct => create_distinct few distinct descriptor,
    fun fewer below => create_below fewer below descriptor⟩

/-- CAMERA_METADATA_VENDOR_TAG_BOUNDARY, as the metadata library documents it. -/
def vendorBoundary : TagId := 2147483648

/-- Sections that share a name, and a name that is in two sections. -/
def contrastTags : List VendorTagSection :=
  [⟨"contrast",[⟨2147483648,"level",1⟩]⟩,⟨"sharpness",[⟨2147483650,"level",1⟩]⟩,
    ⟨"contrast",[⟨2147483649,"range",3⟩]⟩]

/-- The last of the tags is below the boundary. -/
def lowTags : List VendorTagSection :=
  [⟨"contrast",[⟨2147483648,"level",1⟩]⟩,⟨"sharpness",[⟨2147483647,"level",1⟩]⟩]

theorem tables_inverse_contrast :
    (∃ d,createDescriptorFromHidl vendorBoundary contrastTags none=some (OK,some d) ∧
      Inverse d contrastTags) ∧
    createDescriptorFromHidl vendorBoundary lowTags none=some (BAD_VALUE,none) :=
  ⟨(tables_inverse vendorBoundary contrastTags none).1 (by decide)
      ⟨by decide,by decide,by decide,by decide⟩,
    (tables_inverse vendorBoundary lowTags none).2 (by decide) (by decide)⟩

section Overflow

/-- The tags of so many ids from the first on, named by their number. -/
def tagsFrom (first n : Nat) : List VendorTag :=
  (List.range n).map fun i => ⟨Fin.ofNat (2^32) (first+i),String.ofList (Nat.toDigits 10 i),0⟩

/-- All ids from the boundary on, and all below it. -/
def vendorIds : VendorTagSection := ⟨"vendor",tagsFrom 2147483648 2147483648⟩

def lowIds : VendorTagSection := ⟨"android",tagsFrom 0 2147483648⟩

variable {first n : Nat}

theorem listed_tagsFrom (name : String) : listed [⟨name,tagsFrom first n⟩]=
    (List.range n).map fun i =>
      (name,⟨Fin.ofNat (2^32) (first+i),String.ofList (Nat.toDigits 10 i),0⟩) := by
  simp [listed,tagsFrom,Function.comp_def]

theorem length_vendorIds : (listed [vendorIds]).length=2147483648 := by
  rw [vendorIds,listed_tagsFrom,List.length_map,List.length_range]

theorem listed_every_id : listed [vendorIds,lowIds]=listed [vendorIds]++listed [lowIds] := by
  simp [listed]

theorem length_every_id : (listed [vendorIds,lowIds]).length=4294967296 := by
  rw [listed_every_id,List.length_append,length_vendorIds,lowIds,listed_tagsFrom,List.length_map,
    List.length_range]

theorem vendorIds_distinct : Distinct vendorBoundary [vendorIds] := by
  have id (i : Nat) (hi : i<2147483648) :
      (Fin.ofNat (2^32) (2147483648+i)).val=2147483648+i := Nat.mod_eq_of_lt (by omega)
  have boundary : vendorBoundary.val=2147483648 := rfl
  rw [vendorIds]
  refine ⟨?_,?_,?_,?_⟩
  · rw [listed_tagsFrom,List.map_map]
    refine List.Nodup.map_on ?_ List.nodup_range
    intro i hi j hj same
    have values := congrArg Fin.val same
    simp only [Function.comp_apply] at values
    rw [id i (List.mem_range.mp hi),id j (List.mem_range.mp hj)] at values
    omega
  · rw [listed_tagsFrom]
    intro e he
    obtain ⟨i,hi,rfl⟩ := List.mem_map.mp he
    rw [Fin.le_def,boundary,id i (List.mem_range.mp hi)]
    omega
  · rw [listed_tagsFrom]
    intro e he
    obtain ⟨i,-,rfl⟩ := List.mem_map.mp he
    exact le_rfl
  · rw [listed_tagsFrom,List.map_map]
    refine List.Nodup.map_on ?_ List.nodup_range
    intro i _ j _ same
    have digits := String.ofList_injective (congrArg Prod.snd same)
    have number := congrArg (Nat.ofDigitChars 10 · 0) digits
    simpa using number

theorem vendorIds_cons : ∃ ts,vendorIds.tags=⟨2147483648,"0",0⟩::ts := by
  have first (n : Nat) (hn : 0<n) : ∃ ts,tagsFrom 2147483648 n=⟨2147483648,"0",0⟩::ts := by
    obtain ⟨k,rfl⟩ : ∃ k,n=k+1 := ⟨n-1,by omega⟩
    rw [tagsFrom,List.range_succ_eq_map,List.map_cons]
    exact ⟨_,rfl⟩
  dsimp only [vendorIds]
  exact first 2147483648 (by decide)

/-- Where the count is back at zero the first tag finds no room in the array. -/
theorem create_no_room {s : VendorTagSection} {t : VendorTag} {ts : List VendorTag}
    (tags : s.tags=t::ts) (vendor : ¬t.tagId<boundary) (wrapped : tagCount (s::vts)=0) :
    createDescriptorFromHidl boundary (s::vts) none=none := by
  have added (w : TagWork) (room : w.tagArray.length ≤ w.idx) :
      addSections boundary w (s::vts)=.error .fatal := by
    simp only [addSections,tags,addTags,addTag,if_neg vendor,if_pos room]
    rfl
  have counted : ¬((0 : Int)<0 ∨ 2147483647<(0 : Int)) := by decide
  rw [createDescriptorFromHidl,wrapped]
  dsimp only
  rw [if_neg counted,added _ le_rfl]
  rfl

/-- All ids from the boundary on are refused, and with every id there is the process ends. -/
theorem every_tag_refused :
    (¬∀ boundary vts descriptor,Distinct boundary vts → ∃ d,
      createDescriptorFromHidl boundary vts descriptor=some (OK,some d) ∧ Inverse d vts) ∧
    ¬∀ boundary vts descriptor,(∃ e∈listed vts,e.2.tagId<boundary) →
      createDescriptorFromHidl boundary vts descriptor=some (BAD_VALUE,descriptor) := by
  constructor
  · intro all
    obtain ⟨d,accepted,-⟩ := all vendorBoundary [vendorIds] none vendorIds_distinct
    rw [create_overflow length_vendorIds.ge (by rw [length_vendorIds]; decide)] at accepted
    have codes : some BAD_VALUE=some OK := congrArg (Option.map Prod.fst) accepted
    revert codes
    decide
  · intro all
    have below : ∃ e∈listed [vendorIds,lowIds],e.2.tagId<vendorBoundary := by
      have zero : 0∈List.range 2147483648 := List.mem_range.mpr (by decide)
      rw [listed_every_id]
      refine ⟨("android",⟨Fin.ofNat (2^32) (0+0),String.ofList (Nat.toDigits 10 0),0⟩),
        List.mem_append.mpr (.inr ?_),by decide⟩
      rw [lowIds,listed_tagsFrom]
      exact List.mem_map_of_mem zero
    have wrapped : tagCount [vendorIds,lowIds]=0 := by
      rw [tagCount_eq,length_every_id]
      decide
    have refused := all vendorBoundary [vendorIds,lowIds] none below
    obtain ⟨ts,tags⟩ := vendorIds_cons
    have ended : createDescriptorFromHidl vendorBoundary [vendorIds,lowIds] none=none :=
      create_no_room tags (by decide) wrapped
    rw [ended] at refused
    cases refused

end Overflow

end CustomVendorTagDescriptor
end IotMedia.Camera
