import IotMedia.Daemon.VideoControl
import IotMedia.Framework.CopyBack

namespace IotMedia.Daemon

open IotMedia.Framework IntType

/-- Metadata that remembers the updates made to it. -/
structure Logged (M : Type) where
  base : M
  log : List (ControlTag×List Int)

section Logs

variable {M : Type} [ControlMetadata M]

instance : ControlMetadata (Logged M) where
  cleared := ⟨ControlMetadata.cleared,[]⟩
  append := fun m other => ⟨ControlMetadata.append m.base other.base,m.log++other.log⟩
  update := fun m tag vs => ⟨ControlMetadata.update m.base tag vs,m.log++[(tag,vs)]⟩
  find := fun m tag => ControlMetadata.find m.base tag

def ControlEnv.logged (env : ControlEnv M) : ControlEnv (Logged M) where
  values := env.values
  lookupTag := env.lookupTag
  mStaticInfo := ⟨env.mStaticInfo,[]⟩
  unheld := env.unheld

/-- The updates that a SET makes to its copy of the metadata, told by the code itself. -/
def setWrites (env : ControlEnv M) (id : VideoControl) (s : ZoomStatics) (payload : Nat) :
    List (ControlTag×List Int) :=
  (controlCase env.logged id .UMD_CTRL_SET_REQUEST
    ⟨⟨ControlMetadata.cleared,[]⟩,s,payload⟩).metadata.log

/-- The two setters make the same updates, the second one keeping the log. -/
def Logs (set : M → M) (logged : Logged M → Logged M) : Prop :=
  ∃ ws,∀ m log,logged ⟨m,log⟩=⟨set m,log++ws⟩ ∧
    set m=ws.foldl (fun m p => ControlMetadata.update m p.1 p.2) m

theorem logs_same : Logs (M := M) (fun m => m) (fun m => m) :=
  ⟨[],fun m log => ⟨by rw [List.append_nil],rfl⟩⟩

theorem logs_setLevel (tag : Option ControlTag) (level : Int) :
    Logs (M := M) (fun m => setLevel m tag level) (fun m => setLevel m tag level) := by
  cases tag with
  | none => exact logs_same
  | some tag => exact ⟨[(tag,[level])],fun _ _ => ⟨rfl,rfl⟩⟩

theorem logs_setMode (table : ModeTable) (tag : Option ControlTag) (value : Int) :
    Logs (M := M) (fun m => setMode table m tag value) (fun m => setMode table m tag value) := by
  simp only [setMode]
  split
  · exact logs_setLevel _ _
  · exact logs_same

theorem Logs.comp {set set' : M → M} {logged logged' : Logged M → Logged M}
    (first : Logs set logged) (second : Logs set' logged') :
    Logs (fun m => set' (set m)) (fun m => logged' (logged m)) := by
  obtain ⟨ws,first⟩ := first
  obtain ⟨ws',second⟩ := second
  refine ⟨ws++ws',fun m log => ⟨?_,?_⟩⟩
  · simp only [(first m log).1,(second (set m) (log++ws)).1,List.append_assoc]
  · rw [List.foldl_append,← (first m log).2,← (second (set m) log).2]

theorem logs_SetZoom (env : ControlEnv M) (magnification pan tilt : Int) :
    Logs (fun m => SetZoom env m magnification pan tilt)
      (fun m => SetZoom env.logged m magnification pan tilt) := by
  have static : activeArray env.logged.mStaticInfo=activeArray env.mStaticInfo := rfl
  simp only [SetZoom,static]
  split
  · exact ⟨[_],fun _ _ => ⟨rfl,rfl⟩⟩
  · exact logs_same

theorem level_logs {env : ControlEnv M} {id : VideoControl} {type : IntType} {set : M → Int → M}
    {get : M → Option Int} {logged : Logged M → Int → Logged M} {get' : Logged M → Option Int}
    (form : controlCase env id=levelCase type set get)
    (form' : controlCase env.logged id=levelCase type logged get')
    (h : ∀ value,Logs (set · value) (logged · value)) (s : ZoomStatics) (p : Nat) :
    Logs (fun m => (controlCase env id .UMD_CTRL_SET_REQUEST ⟨m,s,p⟩).metadata)
      (fun m => (controlCase env.logged id .UMD_CTRL_SET_REQUEST ⟨m,s,p⟩).metadata) := by
  rw [form,form']
  exact h (type.load p)

theorem controlCase_logs (env : ControlEnv M) (id : VideoControl) (s : ZoomStatics) (p : Nat) :
    Logs (fun m => (controlCase env id .UMD_CTRL_SET_REQUEST ⟨m,s,p⟩).metadata)
      (fun m => (controlCase env.logged id .UMD_CTRL_SET_REQUEST ⟨m,s,p⟩).metadata) := by
  cases id with
  | UMD_VIDEO_CTRL_BRIGHTNESS | UMD_VIDEO_CTRL_CONTRAST | UMD_VIDEO_CTRL_SATURATION
  | UMD_VIDEO_CTRL_SHARPNESS | UMD_VIDEO_CTRL_BACKLIGHT_COMPENSATION
  | UMD_VIDEO_CTRL_WB_TEMPERTURE | UMD_VIDEO_CTRL_EXPOSURE_TIME =>
    refine level_logs rfl rfl (fun _ => ?_) s p
    exact logs_setLevel _ _
  | UMD_VIDEO_CTRL_GAIN =>
    refine level_logs rfl rfl (fun _ => ?_) s p
    exact (logs_setLevel _ _).comp (logs_setLevel _ _)
  | UMD_VIDEO_CTRL_ANTIBANDING | UMD_VIDEO_CTRL_WB_MODE | UMD_VIDEO_CTRL_EXPOSURE_MODE
  | UMD_VIDEO_CTRL_FOCUS_MODE =>
    refine level_logs rfl rfl (fun _ => ?_) s p
    exact logs_setMode _ _ _
  | UMD_VIDEO_CTRL_ZOOM | UMD_VIDEO_CTRL_PANTILT =>
    simp only [controlCase,zoomCase]
    exact logs_SetZoom env _ _ _
  | UMD_VIDEO_CTRL_EXPOSURE_PRIORITY | unknown => exact logs_same

/-- A SET makes these updates to its copy. -/
theorem controlCase_writes (env : ControlEnv M) (id : VideoControl) (m : M) (s : ZoomStatics)
    (p : Nat) : (controlCase env id .UMD_CTRL_SET_REQUEST ⟨m,s,p⟩).metadata=
      (setWrites env id s p).foldl (fun m p => ControlMetadata.update m p.1 p.2) m := by
  obtain ⟨ws,logs⟩ := controlCase_logs env id s p
  have writes : setWrites env id s p=ws :=
    (congrArg Logged.log (logs ControlMetadata.cleared []).1).trans (List.nil_append ws)
  rw [writes]
  exact (logs m []).2

end Logs

variable {M : Type} [ControlMetadata M] (env : ControlEnv M)

def isoModeTag : Option ControlTag :=
  GetVendorTagByName env "org.codeaurora.qcamera3.iso_exp_priority" "use_iso_exp_priority"

/-- ISO_MODE_AUTO if the tag is known. -/
def initWrites : List (ControlTag×List Int) :=
  match isoModeTag env with
  | some tag => [(tag,[0])]
  | none => []

namespace ControlCamera

/-- What CameraStart does to the metadata, with mCameraMutex held from its first line on. -/
def InitCameraParamsLocked (c : ControlCamera M) : ControlCamera M :=
  c.SetCameraMetadata (setLevel c.GetCameraMetadata (isoModeTag env) 0)

end ControlCamera

/-- The camera with the SET requests that are on their way, each with its copy of the metadata and
what it has updated in it, and the updates of those that have put theirs back. -/
structure UpdateWorld (M : Type) where
  camera : ControlCamera M
  requests : Nat → Option (CopyStage M ControlTag (List Int)) := fun _ => none
  completed : List (List (ControlTag×List Int)) := []

/-- GetCameraMetadata, the switch, and SetCameraMetadata of a SET request; and CameraStart. -/
inductive UpdateLabel
  | getMetadata (i : Nat)
  | setControl (i : Nat) (id : VideoControl) (payload : Nat)
  | setMetadata (i : Nat)
  | initParams

namespace UpdateWorld

inductive Step : UpdateWorld M → UpdateLabel → UpdateWorld M → Prop
  | getMetadata {w : UpdateWorld M} {i : Nat} (idle : w.requests i=none) :
    Step w (.getMetadata i)
      { w with
        requests := Function.update w.requests i
          (some (.copied w.camera.GetCameraMetadata w.completed.length)) }
  | setControl {w : UpdateWorld M} {i : Nat} {m : M} {seen : Nat} (id : VideoControl)
      (payload : Nat) (copied : w.requests i=some (.copied m seen)) :
    Step w (.setControl i id payload)
      { w with
        camera := { w.camera with
          statics := (controlCase env id .UMD_CTRL_SET_REQUEST
            ⟨m,w.camera.statics,payload⟩).statics }
        requests := Function.update w.requests i (some (.changed
          (controlCase env id .UMD_CTRL_SET_REQUEST ⟨m,w.camera.statics,payload⟩).metadata seen
          (setWrites env id w.camera.statics payload))) }
  | setMetadata {w : UpdateWorld M} {i : Nat} {m : M} {seen : Nat}
      {writes : List (ControlTag×List Int)} (changed : w.requests i=some (.changed m seen writes)) :
    Step w (.setMetadata i)
      { camera := w.camera.SetCameraMetadata m
        requests := Function.update w.requests i none
        completed := w.completed++[writes] }
  | initParams {w : UpdateWorld M} :
    Step w .initParams
      { w with
        camera := w.camera.InitCameraParamsLocked env
        completed := w.completed++[initWrites env] }

/-- The steps of a SET request without interruption are handleVideoControl. -/
theorem handleVideoControl_steps {c : ControlCamera M} {id : VideoControl} {payload : Nat} :
    Run (Step env) ⟨c,fun _ => none,[]⟩
      [.getMetadata 0,.setControl 0 id payload,.setMetadata 0]
      ⟨(c.handleVideoControl env id .UMD_CTRL_SET_REQUEST payload).1,fun _ => none,
        [setWrites env id c.statics payload]⟩ := by
  have taken : Run (Step env) ⟨c,fun _ => none,[]⟩ [.getMetadata 0] _ := .snoc .nil (.getMetadata rfl)
  have set := taken.snoc (.setControl id payload (Function.update_self 0 _ _))
  have put := set.snoc (.setMetadata (Function.update_self 0 _ _))
  simpa [ControlCamera.handleVideoControl] using put

/-- The world as one of updates on a shared store. -/
def toCopyWorld (w : UpdateWorld M) : CopyWorld Nat M ControlTag (List Int) where
  shared := w.camera.metadata
  stage := w.requests
  completed := w.completed

def copyLabel (w : UpdateWorld M) : UpdateLabel → CopyLabel Nat ControlTag (List Int)
  | .getMetadata i => .take i
  | .setControl i id payload => .change i (setWrites env id w.camera.statics payload)
  | .setMetadata i => .putBack i
  | .initParams => .atOnce (initWrites env)

variable [LawfulControlMetadata M]

/-- CameraMetadata as a store; a copy is made by clear and append. -/
def metadataStore (M : Type) [ControlMetadata M] [LawfulControlMetadata M] :
    Store M ControlTag (List Int) where
  find := ControlMetadata.find
  copy := ControlMetadata.append ControlMetadata.cleared
  update := ControlMetadata.update
  find_copy := LawfulControlMetadata.find_append_cleared
  find_update := LawfulControlMetadata.find_update
  find_update_ne := LawfulControlMetadata.find_update_ne

theorem setLevel_initWrites (m : M) :
    setLevel m (isoModeTag env) 0=(metadataStore M).write m (initWrites env) := by
  unfold initWrites
  cases isoModeTag env with
  | none => rfl
  | some tag => rfl

variable {env}

theorem step_copies {w w' : UpdateWorld M} {l : UpdateLabel} (h : Step env w l w') :
    CopyWorld.Step (metadataStore M) w.toCopyWorld (w.copyLabel env l) w'.toCopyWorld := by
  cases h with
  | getMetadata idle => exact .take idle
  | @setControl i m seen id payload copied =>
    rw [toCopyWorld,controlCase_writes]
    exact .change (setWrites env id w.camera.statics payload) copied
  | setMetadata changed => exact .putBack changed
  | initParams =>
    rw [toCopyWorld,ControlCamera.InitCameraParamsLocked,setLevel_initWrites]
    exact .atOnce (initWrites env)

/-- For every tag that a completed update has written, mRequest.metadata has the value of one of the
updates that wrote it, and of the only one if it is one. -/
def NoneLost (w : UpdateWorld M) : Prop := CopyWorld.NoneLost (metadataStore M) w.toCopyWorld

variable (env) in
/-- Where a SET request writes its copy back, each tag that an update completed since its
GetCameraMetadata has written is one that it writes itself, or that an update completed before that
has written, or that has had the value of a completed update of the tag from the start on. -/
def InOrder (start : M) (w : UpdateWorld M) (l : UpdateLabel) : Prop :=
  CopyWorld.InOrder (metadataStore M) start w.toCopyWorld (w.copyLabel env l)

/-- No update is lost as long as every request is in order when it writes its copy back, and one
that is not loses an update. -/
theorem updates_kept {c : ControlCamera M} {labels : List UpdateLabel} {w : UpdateWorld M}
    (hr : Run (Guarded (InOrder env c.metadata) (Step env)) ⟨c,fun _ => none,[]⟩ labels w) :
    w.NoneLost ∧ ∀ l w',Step env w l w' → (w'.NoneLost ↔ InOrder env c.metadata w l) := by
  obtain ⟨_,copies⟩ : ∃ ks,Run (Guarded (CopyWorld.InOrder (metadataStore M) c.metadata)
      (CopyWorld.Step (metadataStore M))) _ ks w.toCopyWorld :=
    hr.simulate toCopyWorld (copyLabel env) fun _ _ _ h => ⟨h.1,step_copies h.2⟩
  obtain ⟨kept,step_iff⟩ := CopyWorld.noneLost_of_inOrder (toCopyWorld ⟨c,fun _ => none,[]⟩)
    (fun _ => rfl) rfl copies
  exact ⟨kept,fun l w' step => step_iff _ _ (step_copies step)⟩

section Tests

omit [LawfulControlMetadata M]

variable (env) in
def next (w : UpdateWorld M) : UpdateLabel → Option (UpdateWorld M)
  | .getMetadata i =>
    match w.requests i with
    | none => some { w with
        requests := Function.update w.requests i
          (some (.copied w.camera.GetCameraMetadata w.completed.length)) }
    | some _ => none
  | .setControl i id payload =>
    match w.requests i with
    | some (.copied m seen) =>
      let r := controlCase env id .UMD_CTRL_SET_REQUEST ⟨m,w.camera.statics,payload⟩
      some { w with
        camera := { w.camera with statics := r.statics }
        requests := Function.update w.requests i (some (.changed r.metadata seen
          (setWrites env id w.camera.statics payload))) }
    | _ => none
  | .setMetadata i =>
    match w.requests i with
    | some (.changed m _ writes) => some
        { camera := w.camera.SetCameraMetadata m
          requests := Function.update w.requests i none
          completed := w.completed++[writes] }
    | _ => none
  | .initParams => some { w with
      camera := w.camera.InitCameraParamsLocked env
      completed := w.completed++[initWrites env] }

variable (env) in
theorem Step.of_next (w : UpdateWorld M) (l : UpdateLabel) (w' : UpdateWorld M)
    (h : w.next env l=some w') : Step env w l w' := by
  cases l with
  | getMetadata i =>
    simp only [next] at h
    split at h
    next idle =>
      cases h
      exact .getMetadata idle
    · cases h
  | setControl i id payload =>
    simp only [next] at h
    split at h
    next copied =>
      cases h
      exact .setControl id payload copied
    · cases h
  | setMetadata i =>
    simp only [next] at h
    split at h
    next changed =>
      cases h
      exact .setMetadata changed
    · cases h
  | initParams =>
    cases h
    exact .initParams

end Tests

instance (start : EntryMap) (w : UpdateWorld EntryMap) (l : UpdateLabel) :
    Decidable (InOrder smallEnv start w l) :=
  inferInstanceAs (Decidable (CopyWorld.InOrder _ _ _ _))

instance (w : UpdateWorld EntryMap) : Decidable w.NoneLost :=
  inferInstanceAs (Decidable (CopyWorld.NoneLost _ _))

/-- No request is on its way, and nothing is in the metadata. -/
def untouched : UpdateWorld EntryMap := ⟨⟨fun _ => none,[],{}⟩,fun _ => none,[]⟩

/-- Brightness 10, and CameraStart; then focus mode 1, with brightness 20 while it is on its way. -/
def inBetween : List UpdateLabel := [.getMetadata 0,.setControl 0 .UMD_VIDEO_CTRL_BRIGHTNESS 10,
  .setMetadata 0,.initParams,.getMetadata 1,.getMetadata 2,
  .setControl 2 .UMD_VIDEO_CTRL_BRIGHTNESS 20,.setControl 1 .UMD_VIDEO_CTRL_FOCUS_MODE 1,
  .setMetadata 2,.setMetadata 1]

theorem updates_kept_inBetween : ∃ w,
    Run (Guarded (InOrder smallEnv untouched.camera.metadata) (Step smallEnv)) untouched inBetween w ∧
      w.NoneLost := by
  obtain ⟨w,hr,-⟩ := Run.of_exec_guarded (G := InOrder smallEnv untouched.camera.metadata)
    (p := fun _ => true) untouched inBetween (Step.of_next smallEnv) (by decide)
  exact ⟨w,hr,(updates_kept hr).1⟩

/-- Both requests copy the metadata before one of them writes it back. -/
def crossed : List UpdateLabel := [.getMetadata 0,.getMetadata 1,
  .setControl 0 .UMD_VIDEO_CTRL_BRIGHTNESS 10,.setControl 1 .UMD_VIDEO_CTRL_FOCUS_MODE 1,
  .setMetadata 0,.setMetadata 1]

/-- The brightness is gone. -/
theorem update_lost : ¬∀ labels w,Run (Step smallEnv) untouched labels w → w.NoneLost := by
  intro supposed
  have found : ∃ w,Run (Step smallEnv) untouched crossed w ∧ decide (¬w.NoneLost)=true :=
    Run.of_exec_any untouched crossed (Step.of_next smallEnv) (by decide)
  obtain ⟨w,hr,lost⟩ := found
  exact of_decide_eq_true lost (supposed crossed w hr)

end UpdateWorld

end IotMedia.Daemon
