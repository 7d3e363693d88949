import IotMedia.Daemon.ControlRoundTrip
import IotMedia.Framework.Unwinding

namespace IotMedia.Daemon

open IotMedia.Framework ControlMetadata LawfulControlMetadata VideoControl

/-- A call of handleVideoControl. -/
structure ControlCall where
  id : VideoControl
  request : ControlRequest
  payload : Nat

variable {M : Type} [ControlMetadata M] (env : ControlEnv M)

namespace ControlCamera

/-- The camera after the call, and what the call leaves in the payload's memory. -/
def call (c : ControlCamera M) (x : ControlCall) : ControlCamera M×Nat :=
  c.handleVideoControl env x.id x.request x.payload

end ControlCamera

/-- zoom_w and zoom_h of SetZoom. -/
def zoomSizes (array : ActiveArray) (magnification : Int) : Int×Int :=
  (zoomSize env (IntType.i32.cast (array.sensor_w-array.sensor_x)) magnification,
    zoomSize env (IntType.i32.cast (array.sensor_h-array.sensor_y)) magnification)

/-- Two magnifications with one crop; both are lost at the next GET of zoom or pan/tilt. -/
def SameZoom (m : M) (a b : Int) : Prop :=
  a=b ∨ (find m .ANDROID_SCALER_CROP_REGION).isSome=true ∧
    ∃ array,activeArray env.mStaticInfo=some array ∧ zoomSizes env array a=zoomSizes env array b

/-- No sequence of requests tells the cameras apart. -/
structure Alike (c d : ControlCamera M) : Prop where
  metadata : c.metadata=d.metadata
  pan : c.statics.pan=d.statics.pan
  tilt : c.statics.tilt=d.statics.tilt
  magnification : SameZoom env c.metadata c.statics.magnification d.statics.magnification

/-- A GET of zoom or pan/tilt that works out a magnification finds one with the crop that the one
it overwrites has. -/
def Quiet (c : ControlCamera M) (x : ControlCall) : Prop :=
  x.request=.UMD_CTRL_GET_REQUEST → x.id=UMD_VIDEO_CTRL_ZOOM ∨ x.id=UMD_VIDEO_CTRL_PANTILT →
    ∀ array∈activeArray env.mStaticInfo,∀ region∈find c.metadata .ANDROID_SCALER_CROP_REGION,
      zoomSizes env array (magnificationOf env array (region.getD 2 0) (region.getD 3 0))=
        zoomSizes env array c.statics.magnification

instance (c : ControlCamera M) (x : ControlCall) : Decidable (Quiet env c x) :=
  inferInstanceAs (Decidable (_ → _ → ∀ array∈activeArray env.mStaticInfo,
    ∀ region∈find c.metadata .ANDROID_SCALER_CROP_REGION,_=_))

/-- Whichever of the GET requests among the first calls are left out, the rest of the calls end
with the metadata and the payloads that they have with them. -/
def ReadOnly (c : ControlCamera M) (calls rest : List ControlCall) : Prop :=
  ∀ marked : List (ControlCall×Bool),marked.map Prod.fst=calls →
    (∀ x∈marked,x.2=false → x.1.request=.UMD_CTRL_GET_REQUEST) →
    let all := serve (ControlCamera.call env) c (marked++rest.map (·,true))
    let left := serve (ControlCamera.call env) c (marked.filter Prod.snd++rest.map (·,true))
    all.1.metadata=left.1.metadata ∧ all.2=left.2

section Switch

variable {env} {w : ControlWork M} {s : ZoomStatics} {id : VideoControl} {request : ControlRequest}

omit [ControlMetadata M] in
theorem levelCase_with {type : IntType} {set : M → Int → M} {get : M → Option Int} :
    levelCase type set get request { w with statics := s }=
      { levelCase type set get request w with statics := s } := by
  cases request with
  | UMD_CTRL_GET_REQUEST =>
    simp only [levelCase]
    split <;> rfl
  | UMD_CTRL_SET_REQUEST | unknown => rfl

/-- The other controls neither use nor change the static variables. -/
theorem controlCase_with (zoom : id≠UMD_VIDEO_CTRL_ZOOM) (pantilt : id≠UMD_VIDEO_CTRL_PANTILT) :
    controlCase env id request { w with statics := s }=
      { controlCase env id request w with statics := s } := by
  cases id with
  | UMD_VIDEO_CTRL_ZOOM => exact absurd rfl zoom
  | UMD_VIDEO_CTRL_PANTILT => exact absurd rfl pantilt
  | UMD_VIDEO_CTRL_EXPOSURE_PRIORITY | unknown => rfl
  | _ => exact levelCase_with

end Switch

variable {env} {c d : ControlCamera M} {m : M} {a b : Int}

omit [ControlMetadata M] in
theorem crop_congr {array : ActiveArray} (h : zoomSizes env array a=zoomSizes env array b)
    (pan tilt : Int) : crop env array a pan tilt=crop env array b pan tilt := by
  obtain ⟨width,height⟩ := Prod.mk.inj h
  simp only [crop,width,height]

theorem SetZoom_congr (h : SameZoom env m a b) (pan tilt : Int) (n : M) :
    SetZoom env n a pan tilt=SetZoom env n b pan tilt := by
  rcases h with rfl|⟨_,array,found,sizes⟩
  · rfl
  · simp only [SetZoom,found,crop_congr sizes]

theorem Alike.refl (c : ControlCamera M) : Alike env c c := ⟨rfl,rfl,rfl,.inl rfl⟩

theorem Alike.trans {e : ControlCamera M} (h : Alike env c d) (h' : Alike env d e) :
    Alike env c e := by
  refine ⟨h.metadata.trans h'.metadata,h.pan.trans h'.pan,h.tilt.trans h'.tilt,?_⟩
  rcases h.magnification with same|⟨region,array,found,sizes⟩
  · rw [same,h.metadata]
    exact h'.magnification
  · rcases h'.magnification with same|⟨-,array',found',sizes'⟩
    · rw [← same]
      exact .inr ⟨region,array,found,sizes⟩
    · obtain rfl := Option.some.inj (found.symm.trans found')
      exact .inr ⟨region,array,found,sizes.trans sizes'⟩

variable [LawfulControlMetadata M]

omit [LawfulControlMetadata M] in
theorem SameZoom.congr {n : M} (h : SameZoom env m a b)
    (kept : find n .ANDROID_SCALER_CROP_REGION=find m .ANDROID_SCALER_CROP_REGION) :
    SameZoom env n a b := by
  rcases h with same|⟨region,rest⟩
  · exact .inl same
  · exact .inr ⟨kept ▸ region,rest⟩

omit [LawfulControlMetadata M] in
theorem call_payload (x : ControlCall) : (c.call env x).2=
    (controlCase env x.id x.request ⟨append cleared c.metadata,c.statics,x.payload⟩).payload := rfl

/-- A call of another control. -/
theorem Alike.call_other (h : Alike env c d) {x : ControlCall} (zoom : x.id≠UMD_VIDEO_CTRL_ZOOM)
    (pantilt : x.id≠UMD_VIDEO_CTRL_PANTILT) :
    (c.call env x).2=(d.call env x).2 ∧ Alike env (c.call env x).1 (d.call env x).1 := by
  have moved : controlCase env x.id x.request ⟨append cleared c.metadata,d.statics,x.payload⟩=
      { controlCase env x.id x.request ⟨append cleared c.metadata,c.statics,x.payload⟩ with
        statics := d.statics } :=
    controlCase_with (w := ⟨append cleared c.metadata,c.statics,x.payload⟩) zoom pantilt
  have foreign : ControlTag.ANDROID_SCALER_CROP_REGION∉x.id.tags := by
    cases hid : x.id <;> simp_all [tags]
  have statics : ∀ e : ControlCamera M,(e.call env x).1.statics=e.statics := fun e =>
    ControlCamera.handleVideoControl_statics.trans (controlCase_statics _ zoom pantilt)
  have metadata : (c.call env x).1.metadata=(d.call env x).1.metadata := by
    simp only [ControlCamera.call,ControlCamera.handleVideoControl_metadata,
      ControlCamera.GetCameraMetadata,← h.metadata,moved]
  have region : find (c.call env x).1.metadata .ANDROID_SCALER_CROP_REGION=
      find c.metadata .ANDROID_SCALER_CROP_REGION := by
    rw [ControlCamera.call,ControlCamera.handleVideoControl_metadata]
    split_ifs
    · rw [find_append_cleared,controlCase_find _ foreign]
      exact find_append_cleared _ _
    · rfl
  refine ⟨?_,metadata,?_,?_,?_⟩
  · rw [call_payload,call_payload,← h.metadata,moved]
  · rw [statics,statics,h.pan]
  · rw [statics,statics,h.tilt]
  · rw [statics,statics]
    exact h.magnification.congr region

theorem SetZoom_region {array : ActiveArray} (found : activeArray env.mStaticInfo=some array)
    (m : M) (magnification pan tilt : Int) :
    (find (append cleared (SetZoom env m magnification pan tilt))
      .ANDROID_SCALER_CROP_REGION).isSome=true := by
  simp [SetZoom,found,find_append_cleared,find_update]

/-- A SET of zoom or pan/tilt. -/
theorem Alike.call_set (h : Alike env c d) {pantilt : Bool} {x : ControlCall}
    (form : controlCase env x.id=zoomCase env pantilt) (set : x.request=.UMD_CTRL_SET_REQUEST) :
    (c.call env x).2=(d.call env x).2 ∧ Alike env (c.call env x).1 (d.call env x).1 := by
  obtain ⟨m,q,pan,tilt,a⟩ := c
  obtain ⟨n,r,pan',tilt',b⟩ := d
  obtain ⟨rfl,rfl,rfl,magnification⟩ := h
  obtain ⟨id,request,payload⟩ := x
  cases set
  change controlCase env id=_ at form
  cases pantilt with
  | false =>
    simp only [ControlCamera.call,ControlCamera.handleVideoControl,form]
    exact ⟨rfl,rfl,rfl,rfl,.inl rfl⟩
  | true =>
    have crops := SetZoom_congr magnification (loadTurn payload 0) (loadTurn payload 4)
      (append cleared m)
    simp only [ControlCamera.call,ControlCamera.handleVideoControl,form,zoomCase,if_true,
      ControlCamera.SetCameraMetadata,ControlCamera.GetCameraMetadata,crops]
    refine ⟨trivial,rfl,rfl,rfl,?_⟩
    rcases magnification with same|⟨-,array,found,sizes⟩
    · exact .inl same
    · exact .inr ⟨SetZoom_region found _ _ _ _,array,found,sizes⟩

/-- A GET of zoom or pan/tilt. -/
theorem Alike.call_get (h : Alike env c d) {pantilt : Bool} {x : ControlCall}
    (form : controlCase env x.id=zoomCase env pantilt) (get : x.request=.UMD_CTRL_GET_REQUEST) :
    (c.call env x).2=(d.call env x).2 ∧ Alike env (c.call env x).1 (d.call env x).1 := by
  obtain ⟨m,q,pan,tilt,a⟩ := c
  obtain ⟨n,r,pan',tilt',b⟩ := d
  obtain ⟨rfl,rfl,rfl,magnification⟩ := h
  obtain ⟨id,request,payload⟩ := x
  cases get
  change controlCase env id=_ at form
  -- Either the magnifications are equal, or both are overwritten with the one found.
  have read : (GetZoom env (append cleared m)).getD a=(GetZoom env (append cleared m)).getD b := by
    rcases magnification with same|⟨region,array,found,-⟩
    · exact congrArg _ same
    · obtain ⟨values,stored⟩ := Option.isSome_iff_exists.mp region
      simp only [GetZoom,find_append_cleared,stored,found,Option.bind_some,Option.map_some,
        Option.getD_some]
  simp only [ControlCamera.call,ControlCamera.handleVideoControl,form,zoomCase,
    ControlCamera.GetCameraMetadata,read]
  exact ⟨trivial,rfl,rfl,rfl,.inl rfl⟩

theorem Alike.call (h : Alike env c d) (x : ControlCall) :
    (c.call env x).2=(d.call env x).2 ∧ Alike env (c.call env x).1 (d.call env x).1 := by
  obtain ⟨id,request,payload⟩ := x
  by_cases zoom : id=UMD_VIDEO_CTRL_ZOOM ∨ id=UMD_VIDEO_CTRL_PANTILT
  · obtain ⟨pantilt,form⟩ : ∃ pantilt,controlCase env id=zoomCase env pantilt := by
      rcases zoom with rfl|rfl
      · exact ⟨false,rfl⟩
      · exact ⟨true,rfl⟩
    cases request with
    | UMD_CTRL_SET_REQUEST => exact h.call_set form rfl
    | UMD_CTRL_GET_REQUEST => exact h.call_get form rfl
    | unknown =>
      simp only [ControlCamera.call,ControlCamera.handleVideoControl,form,zoomCase]
      exact ⟨trivial,h⟩
  · obtain ⟨apart,apart'⟩ := not_or.mp zoom
    exact h.call_other apart apart'

theorem unwinding : Unwinding (ControlCamera.call env) (Alike env) where
  refl := Alike.refl
  trans := Alike.trans
  output := fun h i => (h.call i).1
  step := fun h i => (h.call i).2

omit [LawfulControlMetadata M] in
theorem get_metadata {x : ControlCall} (get : x.request=.UMD_CTRL_GET_REQUEST) :
    (c.call env x).1.metadata=c.metadata := by
  rw [ControlCamera.call,ControlCamera.handleVideoControl_metadata,get]
  rfl

theorem get_statics {x : ControlCall} (get : x.request=.UMD_CTRL_GET_REQUEST)
    (zoom : x.id=UMD_VIDEO_CTRL_ZOOM ∨ x.id=UMD_VIDEO_CTRL_PANTILT) :
    (c.call env x).1.statics={ c.statics with
      magnification := (GetZoom env c.metadata).getD c.statics.magnification } := by
  have region : GetZoom env (append cleared c.metadata)=GetZoom env c.metadata := by
    simp only [GetZoom,find_append_cleared]
  rw [ControlCamera.call,ControlCamera.handleVideoControl_statics,get]
  rcases zoom with id|id <;>
    simp only [id,controlCase,zoomCase,ControlCamera.GetCameraMetadata,region]

/-- A quiet GET leaves a camera that no sequence of requests tells from the one before. -/
theorem Quiet.alike {x : ControlCall} (h : Quiet env c x)
    (get : x.request=.UMD_CTRL_GET_REQUEST) : Alike env (c.call env x).1 c := by
  by_cases zoom : x.id=UMD_VIDEO_CTRL_ZOOM ∨ x.id=UMD_VIDEO_CTRL_PANTILT
  · have statics : (c.call env x).1.statics=_ := get_statics get zoom
    refine ⟨get_metadata get,by rw [statics],by rw [statics],?_⟩
    rw [statics,get_metadata get]
    cases region : find c.metadata .ANDROID_SCALER_CROP_REGION with
    | none => exact .inl (by simp [GetZoom,region])
    | some values =>
      cases found : activeArray env.mStaticInfo with
      | none => exact .inl (by simp [GetZoom,found])
      | some array =>
        refine .inr ⟨by rw [region]; rfl,array,found,?_⟩
        simpa [GetZoom,region,found] using h get zoom array found values region
  · obtain ⟨apart,apart'⟩ := not_or.mp zoom
    have statics : (c.call env x).1.statics=c.statics :=
      ControlCamera.handleVideoControl_statics.trans (controlCase_statics _ apart apart')
    exact ⟨get_metadata get,by rw [statics],by rw [statics],.inl (by rw [statics])⟩

/-- SET of pan/tilt with pan and tilt 0. -/
def centre : ControlCall := ⟨UMD_VIDEO_CTRL_PANTILT,.UMD_CTRL_SET_REQUEST,0⟩

/-- The crop that SET of pan/tilt leaves shows the sizes. -/
theorem centre_region {array : ActiveArray} (found : activeArray env.mStaticInfo=some array) :
    (find (c.call env centre).1.metadata .ANDROID_SCALER_CROP_REGION).map
      (fun region => (region.getD 2 0,region.getD 3 0))=
        some (zoomSizes env array c.statics.magnification) := by
  rw [ControlCamera.call,ControlCamera.handleVideoControl_metadata]
  simp only [centre,if_true,controlCase,zoomCase,SetZoom,found,find_append_cleared,find_update]
  rfl

theorem quiet_of_readOnly {x : ControlCall} (h : ReadOnly env c [x] [centre]) : Quiet env c x := by
  intro get zoom array found values region
  have marked : ∀ y∈[(x,false)],y.2=false → y.1.request=.UMD_CTRL_GET_REQUEST := by
    intro y one _
    rw [List.mem_singleton.mp one]
    exact get
  obtain ⟨same,-⟩ := h [(x,false)] rfl marked
  have with_get := centre_region (c := (c.call env x).1) found
  have without := centre_region (c := c) found
  change ((c.call env x).1.call env centre).1.metadata=(c.call env centre).1.metadata at same
  rw [same,without,get_statics get zoom] at with_get
  simpa [GetZoom,Option.mem_def.mp region,Option.mem_def.mp found] using
    (Option.some.inj with_get).symm

/-- The run of some calls, the first ones quiet, in which any of those may be left out. -/
theorem Quiet.readOnly {calls : List ControlCall}
    (quiet : Follows (Quiet env) (fun c x => (c.call env x).1) c calls) (rest : List ControlCall) :
    ReadOnly env c calls rest := by
  intro marked listed gets
  have left_out : Follows (fun c x => x.2=false → Alike env (c.call env x.1).1 c)
      (fun c x => (c.call env x.1).1) c marked := by
    subst listed
    clear rest
    induction marked generalizing c with
    | nil => exact trivial
    | cons x marked ih =>
      refine ⟨fun out => quiet.1.alike (gets x List.mem_cons_self out),ih ?_ quiet.2⟩
      exact fun y later => gets y (List.mem_cons_of_mem x later)
  obtain ⟨last,outputs⟩ := unwinding.serve_filter (Alike.refl c) left_out
  obtain ⟨final,outputs'⟩ := unwinding.serve_alike last (rest.map (·,true))
  simp only [serve_append,outputs,outputs']
  exact ⟨final.metadata,trivial⟩

/-- Leaving out GET requests of a prefix of the calls is never noticed, whatever follows, if and only
if every GET of the calls is quiet. -/
theorem reads_unobservable_iff {calls : List ControlCall} :
    (∀ pre,pre <+: calls → ∀ rest,ReadOnly env c pre rest) ↔
      Follows (Quiet env) (fun c x => (c.call env x).1) c calls := by
  constructor
  · intro supposed
    induction calls generalizing c with
    | nil => exact trivial
    | cons x calls ih =>
      have first : [x] <+: x::calls := ⟨calls,rfl⟩
      refine ⟨quiet_of_readOnly (supposed [x] first [centre]),ih ?_⟩
      intro pre before rest marked listed gets
      have longer : x::pre <+: x::calls := (List.prefix_cons_inj x).mpr before
      have kept : ∀ y∈(x,true)::marked,y.2=false → y.1.request=.UMD_CTRL_GET_REQUEST := by
        intro y present out
        rcases List.mem_cons.mp present with rfl|later
        · cases out
        · exact gets y later out
      obtain ⟨metadata,outputs⟩ := supposed _ longer rest ((x,true)::marked) (by simp [listed]) kept
      exact ⟨metadata,(List.cons.inj outputs).2⟩
  · intro quiet pre before rest
    obtain ⟨after,rfl⟩ := before
    exact Quiet.readOnly quiet.left rest

/-- In the camera whose metadata is empty, zoom is set to twice the size, read and panned. -/
def panned (magnification : Nat) : List ControlCall :=
  [⟨UMD_VIDEO_CTRL_ZOOM,.UMD_CTRL_SET_REQUEST,magnification⟩,
    ⟨UMD_VIDEO_CTRL_ZOOM,.UMD_CTRL_GET_REQUEST,0⟩,centre]

theorem reads_unobservable_twice :
    Follows (Quiet smallEnv) (fun c x => (c.call smallEnv x).1) ⟨fun _ => none,[],{}⟩ (panned 200) ∧
      ∀ pre,pre <+: panned 200 → ∀ rest,ReadOnly smallEnv ⟨fun _ => none,[],{}⟩ pre rest := by
  have quiet : Follows (Quiet smallEnv) (fun c x => (c.call smallEnv x).1) ⟨fun _ => none,[],{}⟩
      (panned 200) := ⟨by decide +kernel,by decide +kernel,by decide +kernel,trivial⟩
  exact ⟨quiet,reads_unobservable_iff.mpr quiet⟩

/-- Nine and a half times the size is read as 951, whose crop is another one. -/
theorem read_observed : ¬∀ calls,ReadOnly smallEnv ⟨fun _ => none,[],{}⟩ calls [] := by
  intro supposed
  have same := (supposed (panned 950) [(⟨UMD_VIDEO_CTRL_ZOOM,.UMD_CTRL_SET_REQUEST,950⟩,true),
    (⟨UMD_VIDEO_CTRL_ZOOM,.UMD_CTRL_GET_REQUEST,0⟩,false),(centre,true)] rfl (by decide)).1
  have region := congrArg (find · .ANDROID_SCALER_CROP_REGION) same
  revert region
  decide +kernel

end IotMedia.Daemon
