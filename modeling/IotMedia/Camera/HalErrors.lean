import IotMedia.Camera.HalRuns

namespace IotMedia.Camera

open IotMedia.Framework PendingRequests

/-- The metadata library as documented: nothing is found in nothing, updates succeed, and no
operation loses an entry of another tag. -/
class LawfulCameraMetadata (M : Type) [CameraMetadata M] : Prop where
  empty_empty : CameraMetadata.isEmpty (CameraMetadata.empty : M)=true
  ofRaw_nil : CameraMetadata.isEmpty (CameraMetadata.ofRaw [] : M)=true
  appendRaw_nil : CameraMetadata.isEmpty (CameraMetadata.appendRaw CameraMetadata.empty [] : M)=true
  ofRaw_find : ∀ raw tag v vs,CameraMetadata.findRaw M raw tag=some (v::vs) →
    CameraMetadata.find (CameraMetadata.ofRaw raw : M) tag≠[]
  appendRaw_find : ∀ raw tag v vs,CameraMetadata.findRaw M raw tag=some (v::vs) →
    CameraMetadata.find (CameraMetadata.appendRaw CameraMetadata.empty raw : M) tag≠[]
  update_ok : ∀ (m : M) tag v,∃ m',CameraMetadata.update m tag v=some m'
  update_find : ∀ (m m' : M) tag v other,CameraMetadata.update m tag v=some m' → tag≠other →
    CameraMetadata.find m other≠[] → CameraMetadata.find m' other≠[]
  append_find : ∀ (m n : M) tag,CameraMetadata.find m tag≠[] →
    CameraMetadata.find (CameraMetadata.append m n) tag≠[]
  sort_find : ∀ (m : M) tag,CameraMetadata.find m tag≠[] →
    CameraMetadata.find (CameraMetadata.sort m) tag≠[]

namespace HalWorld

variable {M : Type} [CameraMetadata M]

/-- The metadata carries a sensor timestamp. -/
def Timestamped (m : M) : Prop := CameraMetadata.find m .ANDROID_SENSOR_TIMESTAMP≠[]

/-- Each frame has one time: its shutter and the timestamps in its metadata are `sensor f`. -/
def Truthful (sensor : Nat → Int) (w : HalWorld M) : HalMessage → Prop
  | .shutter f ts => ts=sensor f
  | .captureResult result =>
    (∀ t,CameraMetadata.findRaw M result.result .ANDROID_SENSOR_TIMESTAMP=some [t] →
      t=sensor result.frameNumber) ∧
    (w.client.carriesFinal result=true →
      CameraMetadata.findRaw M result.result .ANDROID_SENSOR_TIMESTAMP=
        some [sensor result.frameNumber] ∧
      ∀ s md,w.client.readResultMetadata result.fmqResultSize=.ok (s,md) → md=[] ∨
        CameraMetadata.findRaw M md .ANDROID_SENSOR_TIMESTAMP=some [sensor result.frameNumber])
  | _ => True

/-- A message of a HAL that is legal for every registered frame. -/
abbrev LegalStep (sensor : Nat → Int) : HalWorld M → HalMessage → HalWorld M → Prop :=
  Guarded (Truthful sensor) Step

/-- A shutter finds its frame pending, and a result that brings something finds it pending or
among the errors. -/
def Expected (w : HalWorld M) : HalMessage → Prop
  | .shutter f _ => (w.client.pendingRequests.valueFor f).isSome
  | .captureResult result => result.result≠[] ∨ result.outputBuffers≠[] →
    (w.client.pendingRequests.valueFor result.frameNumber).isSome ∨
      (w.client.pendingErrorRequests.valueFor result.frameNumber).isSome
  | _ => True

/-- No handler has called SET_ERR. -/
def Unbroken (w : HalWorld M) : Prop := setErrors w.log=[]

/-- The entry agrees with what a truthful HAL has sent, errors apart. -/
structure Agrees (sensor : Nat → Int) (f : Nat) (rec : FrameRecord) (r : PendingRequest M) :
    Prop where
  remaining : r.buffersRemaining=rec.numBuffers-rec.reported.length
  shutter : rec.shutter=true → r.shutterTS=sensor f
  noShutter : rec.shutter=false → r.shutterTS=0
  final : r.isMetaPresent=true → rec.finalMeta=true ∧ r.sensorTS=sensor f
  pending : CameraMetadata.isEmpty r.pendingMetadata=true ∨
    rec.finalMeta=true ∧ Timestamped r.pendingMetadata

structure Calm (sensor : Nat → Int) (w : HalWorld M) : Prop where
  entries : ∀ f rec r,w.frames f=some rec → w.client.pendingRequests.valueFor f=some r →
    Agrees sensor f rec r
  unknown : ∀ f,w.frames f=none → w.client.pendingRequests.valueFor f=none
  shutterSent : ∀ f rec,w.frames f=some rec → rec.shutter=true → f<w.nextShutter
  finalSent : ∀ f rec,w.frames f=some rec → rec.finalMeta=true → f<w.nextFinal
  shutters : ∀ i,w.client.expectedShutter i≤w.nextShutter
  results : ∀ i,w.client.expectedResult i≤w.nextShutter ∧ w.client.expectedResult i≤w.nextFinal
  silent : setErrors w.log=[]

variable {sensor : Nat → Int} {w w' : HalWorld M} {msg : HalMessage} {rec : FrameRecord}
  {r : PendingRequest M} {f : Nat} {o : PendingRequests M × List (ResultEvent M)}

/-- A complete entry without an error has matching timestamps. -/
theorem Agrees.no_mismatch (ha : Agrees sensor f rec r) (hc : r.complete=true) :
    mismatch r f=[] := by
  unfold mismatch
  rw [if_neg]
  intro h
  have both : r.isMetaPresent=true ∧ r.shutterTS≠0 := by
    simp [PendingRequest.complete,h.1] at hc
    exact hc.2
  cases hs : rec.shutter with
  | false => exact both.2 (ha.noShutter hs)
  | true => exact h.2 ((ha.final both.1).2.trans (ha.shutter hs).symm)

theorem Calm.touch (hi : Calm sensor w) (ht : Touches f w.client o) (rec' : FrameRecord) {n m : Nat}
    (hok : ∀ r,o.1.pendingRequests.valueFor f=some r → Agrees sensor f rec' r)
    (hn : w.nextShutter≤n) (hm : w.nextFinal ≤ m) (hshutter : rec'.shutter=true → f<n)
    (hfinal : rec'.finalMeta=true → f < m) (hs : ∀ i,o.1.expectedShutter i≤n)
    (hr : ∀ i,o.1.expectedResult i≤n ∧ o.1.expectedResult i ≤ m) (he : setErrors o.2=[]) :
    Calm sensor ⟨o.1,Function.update w.frames f (some rec'),n,m,w.log++o.2⟩ := by
  have frames : ∀ g rec,Function.update w.frames f (some rec') g=some rec →
      g=f ∧ rec'=rec ∨ g≠f ∧ w.frames g=some rec := by
    intro g rec hg
    by_cases hgf : g=f
    · subst g
      exact Or.inl ⟨rfl,by simpa using hg⟩
    · exact Or.inr ⟨hgf,by simpa [hgf] using hg⟩
  refine ⟨?_,?_,?_,?_,hs,hr,?_⟩
  · intro g rec r hg hv
    rcases frames g rec hg with ⟨rfl,rfl⟩|⟨hgf,old⟩
    · exact hok r hv
    · exact hi.entries g rec r old (by rw [← ht.pending g hgf]; exact hv)
  · intro g hg
    have hgf : g≠f := by
      intro h
      subst g
      simp at hg
    have old : w.frames g=none := by simpa [hgf] using hg
    exact (ht.pending g hgf).trans (hi.unknown g old)
  · intro g rec hg hrec
    rcases frames g rec hg with ⟨rfl,rfl⟩|⟨-,old⟩
    · exact hshutter hrec
    · have := hi.shutterSent g rec old hrec
      show g<n
      omega
  · intro g rec hg hrec
    rcases frames g rec hg with ⟨rfl,rfl⟩|⟨-,old⟩
    · exact hfinal hrec
    · have := hi.finalSent g rec old hrec
      show g < m
      omega
  · show setErrors (w.log++o.2)=[]
    rw [setErrors_append,hi.silent,he]
    rfl

section Lawful

variable [LawfulCameraMetadata M]

theorem sendCaptureResult_silent (s : PendingRequests M) (m : M) (extras : CaptureResultExtras)
    (collected : M) (f : Nat) (hm : CameraMetadata.isEmpty m=true ∨ Timestamped m)
    (ho : s.expectedResult extras.input≤f) :
    setErrors (s.sendCaptureResult m extras collected f).2=[] := by
  have outcome := s.sendCaptureResult_outcome m extras collected f
  generalize s.sendCaptureResult m extras collected f=o at outcome ⊢
  have stamped (filled : CameraMetadata.isEmpty m=false) : Timestamped m :=
    hm.resolve_left (by simp [filled])
  cases outcome with
  | unsent | sent => rfl
  | late behind => exact absurd ho (not_le.mpr behind)
  | uncounted filled order failed =>
    obtain ⟨m',hu⟩ := LawfulCameraMetadata.update_ok m .ANDROID_REQUEST_FRAME_COUNT (asInt32 f)
    rw [hu] at failed
    cases failed
  | untimed filled order updated untimed =>
    have kept := LawfulCameraMetadata.update_find m _ .ANDROID_REQUEST_FRAME_COUNT (asInt32 f)
      .ANDROID_SENSOR_TIMESTAMP updated (by decide) (stamped filled)
    refine absurd untimed (LawfulCameraMetadata.sort_find _ _ ?_)
    split_ifs
    · exact LawfulCameraMetadata.append_find _ collected .ANDROID_SENSOR_TIMESTAMP kept
    · exact kept

theorem shutter_calm (hi : Calm sensor w) {ts : Int} (hl : w.Legal (.shutter f ts))
    (ht : Truthful sensor w (.shutter f ts)) (hx : w.Expected (.shutter f ts)) :
    Calm sensor (w.receive (.shutter f ts)) := by
  obtain ⟨hts,ho,rec,hf,hns⟩ := hl
  obtain rfl : ts=sensor f := ht
  obtain ⟨r,hv⟩ := Option.isSome_iff_exists.mp hx
  have old := hi.entries f rec r hf hv
  have touched := w.client.notifyShutter_touches f (sensor f)
  have counters := w.client.notifyShutter_counters f (sensor f)
  have frame := frameAfter_le f
  simp only [receive,hf,Option.map_some]
  rcases w.client.notifyShutter_cases f (sensor f) with
    ⟨gone,-⟩|⟨q,called,hq,-,-,⟨late,-⟩|⟨-,st,keep,closes⟩⟩
  · rw [gone] at hv
    cases hv
  · have := hi.shutters q.resultExtras.input
    omega
  obtain rfl : q=r := by
    rw [hv] at hq
    exact (Option.some.inj hq).symm
  -- the metadata held so far, if any, is the final one and carries its timestamp
  have sent : setErrors ((w.client.noteShutter q f (sensor f)).sendCaptureResult q.pendingMetadata
      q.resultExtras q.composedResult f).2=[] := by
    apply sendCaptureResult_silent
    · exact old.pending.imp id And.right
    · have bound := (hi.results q.resultExtras.input).1
      have same := w.client.noteShutter_expectedResult q f (sensor f) q.resultExtras.input
      omega
  have agrees : Agrees sensor f { rec with shutter := true } (afterShutter q (sensor f) st) :=
    ⟨old.remaining,fun _ => rfl,fun h => by simp at h,old.final,old.pending⟩
  refine hi.touch touched _ ?_ (by omega) (le_refl _) ?_ ?_ ?_ ?_ ?_
  · intro r' hr'
    rcases closes with ⟨-,gone,-,-⟩|⟨-,stays,-,-⟩
    · rw [gone] at hr'
      cases hr'
    · rw [stays] at hr'
      obtain rfl := Option.some.inj hr'
      exact agrees
  · intro _
    exact Nat.lt_succ_self f
  · exact hi.finalSent f rec hf
  · intro i
    have bound := hi.shutters i
    rcases (counters i).1 with h|h
    · omega
    · omega
  · intro i
    have bound := hi.results i
    rcases (counters i).2 with h|⟨q',hq',he,h⟩
    · omega
    · obtain rfl : q=q' := by
        rw [hv] at hq'
        exact Option.some.inj hq'
      have final : rec.finalMeta=true := by
        rcases old.pending with h0|h1
        · rw [h0] at he
          cases he
        · exact h1.1
      have := hi.finalSent f rec hf final
      omega
  · rcases closes with ⟨hc,-,-,he⟩|⟨-,-,-,he⟩
    · rw [he,sent,List.nil_append]
      exact agrees.no_mismatch hc
    · rw [he,sent]

/-- What a legal result leaves of an entry agrees with the HAL again. -/
theorem Agrees.held {result : CaptureResult} {queue : Option (List UInt8)} {md : List UInt8}
    {e : CaptureResultExtras} {c : M} {b : Bool} {q : PendingRequest M}
    (old : Agrees sensor result.frameNumber rec r) (hl : w.LegalResult rec result)
    (ht : Truthful sensor w (.captureResult result))
    (raw : w.client.carriesFinal result=true → md=[] ∨
      CameraMetadata.findRaw M md .ANDROID_SENSOR_TIMESTAMP=some [sensor result.frameNumber])
    (hq : HeldFrom (countedResult { w.client with resultMetadataQueue := queue } r result e c b) q
      result md (w.client.carriesFinal result)) :
    Agrees sensor result.frameNumber { rec with
      reported := rec.reported++result.outputBuffers
      finalMeta := rec.finalMeta || w.client.carriesFinal result } q := by
  have left : r.buffersRemaining=rec.numBuffers-rec.reported.length := old.remaining
  refine ⟨?_,?_,?_,?_,?_⟩
  · rw [hq.buffersRemaining]
    simp only [countedResult,hl.noInput,List.length_append]
    simp
    omega
  · rw [hq.shutterTS]
    exact old.shutter
  · rw [hq.shutterTS]
    exact old.noShutter
  · intro hp
    rw [hq.isMetaPresent] at hp
    have either : r.isMetaPresent=true ∨ w.client.carriesFinal result=true := by
      simpa [countedResult,carriesFinal] using hp
    rw [hq.sensorTS]
    rcases either with hp|hc
    · refine ⟨by simp [(old.final hp).1],?_⟩
      split
      · exact ht.1 _ ‹_›
      · exact (old.final hp).2
    · refine ⟨by simp [hc],?_⟩
      rw [(ht.2 hc).1]
  · rw [hq.pendingMetadata]
    split_ifs with hs
    · rcases raw hs.2 with hm|hm
      · rw [hm]
        exact Or.inl LawfulCameraMetadata.appendRaw_nil
      · exact Or.inr ⟨by simp [hs.2],LawfulCameraMetadata.appendRaw_find md _ _ _ hm⟩
    · exact old.pending.imp id fun h => ⟨by simp [h.1],h.2⟩

/-- A legal result of an entry that agrees with the HAL is delivered without an error and
leaves the entry agreeing. -/
theorem processResult_calm (hi : Calm sensor w) {result : CaptureResult}
    {queue : Option (List UInt8)} {md : List UInt8}
    (hf : w.frames result.frameNumber=some rec)
    (hv : w.client.pendingRequests.valueFor result.frameNumber=some r)
    (hl : w.LegalResult rec result) (ht : Truthful sensor w (.captureResult result))
    (hmd : w.client.readResultMetadata result.fmqResultSize=
      .ok ({ w.client with resultMetadataQueue := queue },md)) :
    setErrors (({ w.client with resultMetadataQueue := queue } : PendingRequests M).processResult r
      result md).2=[] ∧
    ∀ q,(({ w.client with resultMetadataQueue := queue } : PendingRequests M).processResult r
        result md).1.pendingRequests.valueFor result.frameNumber=some q →
      Agrees sensor result.frameNumber { rec with
        reported := rec.reported++result.outputBuffers
        finalMeta := rec.finalMeta || w.client.carriesFinal result } q := by
  have old := hi.entries _ rec r hf hv
  have left : r.buffersRemaining=rec.numBuffers-rec.reported.length := old.remaining
  have room := hl.room
  rcases ({ w.client with resultMetadataQueue := queue } : PendingRequests M).processResult_cases r
    result md with ⟨q,told,e,-,-,-,hn⟩|⟨e,c,b,told,collected,hin,-,silent,h⟩
  · have once : w.client.carriesFinal result=true → r.isMetaPresent=false := by
      intro hc
      cases hp : r.isMetaPresent with
      | false => rfl
      | true =>
        have := hl.once hc
        rw [(old.final hp).1] at this
        cases this
    have short := hn hl.inRange once
    simp only [hl.noInput,Bool.false_eq_true,if_false] at short
    omega
  rw [h]
  obtain ⟨q,hq,closes⟩ := deliverResult_closes
    (s := { w.client with resultMetadataQueue := queue })
    (countedResult { w.client with resultMetadataQueue := queue } r result e c b) collected result md
    (carriesFinal { w.client with resultMetadataQueue := queue } result) (by simp [hv])
  have raw : w.client.carriesFinal result=true → md=[] ∨
      CameraMetadata.findRaw M md .ANDROID_SENSOR_TIMESTAMP=some [sensor result.frameNumber] :=
    fun hc => (ht.2 hc).2 _ _ hmd
  -- what is sent at once goes out in frame order and carries its timestamp
  have sent : sendErrors { w.client with resultMetadataQueue := queue }
      (countedResult { w.client with resultMetadataQueue := queue } r result e c b) collected
      result md (carriesFinal { w.client with resultMetadataQueue := queue } result)=[] := by
    unfold sendErrors
    split_ifs with hs
    · apply sendCaptureResult_silent
      · rcases raw hs.1 with hm|hm
        · rw [hm]
          exact Or.inl LawfulCameraMetadata.ofRaw_nil
        · exact Or.inr (LawfulCameraMetadata.ofRaw_find md _ _ _ hm)
      · have bound := (hi.results e.input).2
        have order := hl.order hs.1
        exact le_trans bound order
    · rfl
  have agrees := old.held hl ht raw hq
  refine ⟨?_,?_⟩
  · rw [setErrors_append,silent,List.nil_append]
    rcases closes with ⟨hc,-,-,he⟩|⟨-,-,-,he⟩
    · rw [he,sent,List.nil_append]
      exact agrees.no_mismatch hc
    · rw [he,sent]
  · intro q' hq'
    rcases closes with ⟨-,gone,-,-⟩|⟨-,stays,-,-⟩
    · rw [gone] at hq'
      cases hq'
    · rw [stays] at hq'
      obtain rfl := Option.some.inj hq'
      exact agrees

/-- So is a legal result, whatever it finds. -/
theorem handleCaptureResult_calm (hi : Calm sensor w) {result : CaptureResult}
    (hf : w.frames result.frameNumber=some rec) (hl : w.LegalResult rec result)
    (ht : Truthful sensor w (.captureResult result)) (hx : w.Expected (.captureResult result)) :
    setErrors (w.client.handleCaptureResult result).2=[] ∧
    ∀ q,(w.client.handleCaptureResult result).1.pendingRequests.valueFor result.frameNumber=some q →
      Agrees sensor result.frameNumber { rec with
        reported := rec.reported++result.outputBuffers
        finalMeta := rec.finalMeta || w.client.carriesFinal result } q := by
  rcases w.client.handleCaptureResult_cases result with
    ⟨hr,hb,h⟩|⟨some_part,⟨bad,-⟩|⟨queue,md,hmd,⟨hv,-,h⟩|⟨hv,hx',h⟩|⟨r,hv,h⟩⟩⟩
  · rw [h]
    have none_final : w.client.carriesFinal result=false := by simp [carriesFinal,hr]
    refine ⟨rfl,fun q hq => ?_⟩
    simpa [hb,none_final] using hi.entries _ rec q hf hq
  · exact absurd ⟨hl.single,hl.readable⟩ bad
  · rw [h]
    refine ⟨rfl,fun q hq => ?_⟩
    have : w.client.pendingRequests.valueFor result.frameNumber=some q := hq
    rw [hv] at this
    cases this
  · have either := hx some_part
    simp [hv,hx'] at either
  · rw [h]
    exact processResult_calm hi hf hv hl ht hmd

theorem result_calm (hi : Calm sensor w) {result : CaptureResult}
    (hl : w.Legal (.captureResult result)) (ht : Truthful sensor w (.captureResult result))
    (hx : w.Expected (.captureResult result)) :
    Calm sensor (w.receive (.captureResult result)) := by
  obtain ⟨rec,hf,hl⟩ := hl
  have touched := w.client.handleCaptureResult_touches result
  have counters := w.client.handleCaptureResult_counters result
  have frame := frameAfter_le result.frameNumber
  have order := hl.order
  simp only [receive,hf,Option.map_some]
  have outcome := handleCaptureResult_calm hi hf hl ht hx
  refine hi.touch touched _ outcome.2 (le_refl _) ?_ (hi.shutterSent _ rec hf) ?_ ?_ ?_ outcome.1
  · split_ifs with hc
    · have := order hc
      omega
    · exact le_refl _
  · intro hfin
    split_ifs with hc
    · exact Nat.lt_succ_self _
    · exact hi.finalSent _ rec hf (by simpa [hc] using hfin)
  · intro i
    rw [(counters i).1]
    exact hi.shutters i
  · intro i
    have bound := hi.results i
    rcases (counters i).2 with h|⟨r,hv,hs,hc,h⟩
    · split_ifs with hc
      · have := order hc
        omega
      · omega
    · have old := hi.entries _ rec r hf hv
      have sent : rec.shutter=true := by
        cases hsh : rec.shutter with
        | true => rfl
        | false => exact absurd (old.noShutter hsh) hs
      have := hi.shutterSent _ rec hf sent
      rw [if_pos hc]
      omega

omit [LawfulCameraMetadata M] in
theorem error_calm (hi : Calm sensor w) {code : ErrorCode} (hl : w.Legal (.error code f)) :
    Calm sensor (w.receive (.error code f)) := by
  obtain ⟨hc,rec,hf⟩ := hl
  obtain ⟨told,-,silent,h⟩ := w.client.notifyError_perFrame hc f
  have touched := w.client.notifyError_touches hc f
  have counters : (w.client.notifyError code f).1.counters=w.client.counters := by
    rw [h]
    cases hv : w.client.pendingRequests.valueFor f <;> rfl
  simp only [receive,hf,Option.map_some]
  refine hi.touch touched _ ?_ (le_refl _) (le_refl _) (hi.shutterSent f rec hf)
    (hi.finalSent f rec hf) ?_ ?_ ?_
  · intro q hq
    rw [h] at hq
    cases hv : w.client.pendingRequests.valueFor f with
    | none =>
      rw [hv] at hq
      have absent : w.client.pendingRequests.valueFor f=some q := hq
      rw [hv] at absent
      cases absent
    | some r =>
      rw [hv] at hq
      rw [store_self _ hv] at hq
      obtain rfl := Option.some.inj hq
      have old := hi.entries f rec r hf hv
      exact ⟨old.remaining,old.shutter,old.noShutter,old.final,old.pending⟩
  · intro i
    rw [expectedShutter_eq,counters]
    exact hi.shutters i
  · intro i
    rw [expectedResult_eq,counters]
    exact hi.results i
  · rw [h]
    exact silent

theorem mark_calm (hi : Calm sensor w) {n : Nat} {extras : CaptureResultExtras}
    (hf : w.frames f=none) : Calm sensor (w.receive (.markPendingRequest f n extras)) := by
  have fresh := hi.unknown f hf
  have touched : Touches f w.client (w.client.markPendingRequest f n extras,[]) :=
    ⟨fun g hg => by simp [markPendingRequest,hg],fun _ _ => rfl,fun _ _ => rfl,rfl⟩
  have done := hi.touch touched { numBuffers := n } (by
    intro q hq
    have added : (w.client.markPendingRequest f n extras).pendingRequests.valueFor f=
        some (.construct n extras) := by
      simp [markPendingRequest,emplace,fresh]
    rw [added] at hq
    obtain rfl := Option.some.inj hq
    exact ⟨by simp [PendingRequest.construct],fun h => by simp at h,fun _ => rfl,
      fun h => by simp [PendingRequest.construct] at h,Or.inl LawfulCameraMetadata.empty_empty⟩)
    (le_refl _) (le_refl _) (fun h => by cases h) (fun h => by cases h) hi.shutters hi.results rfl
  simpa [receive] using done

theorem step_calm (hi : Calm sensor w) (hx : w.Expected msg) (h : LegalStep sensor w msg w') :
    Calm sensor w' := by
  rw [h.2.received]
  cases msg with
  | markPendingRequest f n extras => exact mark_calm hi h.2.legal
  | shutter f ts => exact shutter_calm hi h.2.legal h.1 hx
  | captureResult result => exact result_calm hi h.2.legal h.1 hx
  | error code f => exact error_calm hi h.2.legal
  | writeMetadata bytes =>
    exact ⟨hi.entries,hi.unknown,hi.shutterSent,hi.finalSent,hi.shutters,hi.results,hi.silent⟩
  | flush ongoing =>
    exact ⟨hi.entries,hi.unknown,hi.shutterSent,hi.finalSent,hi.shutters,hi.results,hi.silent⟩

omit [LawfulCameraMetadata M] in
/-- A shutter or a result that finds no entry is reported. -/
theorem step_unexpected (hx : ¬w.Expected msg) (h : LegalStep sensor w msg w') :
    ¬w'.Unbroken := by
  rw [h.2.received]
  intro silent
  cases msg with
  | shutter f ts =>
    have gone : w.client.pendingRequests.valueFor f=none := by simpa [Expected] using hx
    have reported : (w.client.notifyShutter f ts).2=[.setErr (.shutterInvalidFrameNumber f)] := by
      rw [notifyShutter_absent gone]
    simp [Unbroken,receive,reported,setErrors,ResultEvent.setError] at silent
  | captureResult result =>
    obtain ⟨rec,hf,hl⟩ := h.2.legal
    have absent : (result.result≠[] ∨ result.outputBuffers≠[]) ∧
        w.client.pendingRequests.valueFor result.frameNumber=none ∧
        w.client.pendingErrorRequests.valueFor result.frameNumber=none := by
      simpa [Expected] using hx
    rcases w.client.handleCaptureResult_cases result with
      ⟨hr,hb,-⟩|⟨-,⟨bad,-⟩|⟨queue,md,-,⟨-,hs,-⟩|⟨-,-,he⟩|⟨r,hv,-⟩⟩⟩
    · exact absent.1.elim (fun h => h hr) (fun h => h hb)
    · exact bad ⟨hl.single,hl.readable⟩
    · simp [absent.2.2] at hs
    · simp [Unbroken,receive,he,setErrors,ResultEvent.setError] at silent
    · rw [absent.2.1] at hv
      cases hv
  | _ => exact hx trivial

omit [LawfulCameraMetadata M] in
theorem start_calm {s : PendingRequests M} (hs : Start s) :
    Calm sensor (⟨s,fun _ => none,0,0,[]⟩ : HalWorld M) := by
  refine ⟨fun _ _ _ h => by simp at h,fun f _ => by simp [hs.pending],fun _ _ h => by simp at h,
    fun _ _ h => by simp at h,?_,?_,rfl⟩
  · intro i
    rw [expectedShutter_eq,hs.counters]
    cases i <;> simp
  · intro i
    rw [expectedResult_eq,hs.counters]
    cases i <;> simp

/-- In every run of a legal HAL whose shutters and results find their frames no handler calls
SET_ERR, and a further message calls none exactly when it finds its frame. -/
theorem no_set_err_iff {s : PendingRequests M} (hs : Start s) {msgs : List HalMessage}
    (hr : Run (Guarded Expected (LegalStep sensor)) (⟨s,fun _ => none,0,0,[]⟩ : HalWorld M) msgs w) :
    w.Unbroken ∧ ∀ msg w',LegalStep sensor w msg w' → (w'.Unbroken ↔ w.Expected msg) := by
  have start : Calm sensor (⟨s,fun _ => none,0,0,[]⟩ : HalWorld M) := start_calm hs
  refine hr.kept_iff_guard (I := Calm sensor) ?_ ?_ start start.silent
  · intro t msg t' calm _ h expected
    exact step_calm calm expected h
  · intro t msg t' calm _ h
    constructor
    · intro silent
      by_contra unexpected
      exact step_unexpected unexpected h silent
    · intro expected
      exact (step_calm calm expected h).silent

end Lawful

theorem values_ne_nil {entries : List (MetadataTag × Int)} {tag : MetadataTag} :
    PlainMetadata.values entries tag≠[] ↔ ∃ v,(tag,v)∈entries := by
  constructor
  · intro h
    obtain ⟨v,hv⟩ := List.exists_mem_of_ne_nil _ h
    obtain ⟨e,he,rfl⟩ := List.mem_map.mp hv
    have same : e.1=tag := by simpa using (List.mem_filter.mp he).2
    exact ⟨e.2,by rw [← same]; exact (List.mem_filter.mp he).1⟩
  · intro h
    obtain ⟨v,hv⟩ := h
    have found : v∈PlainMetadata.values entries tag :=
      List.mem_map.mpr ⟨(tag,v),List.mem_filter.mpr ⟨hv,by simp⟩,rfl⟩
    exact List.ne_nil_of_mem found

theorem findRaw_values {raw : List UInt8} {tag : MetadataTag} {v : Int} {vs : List Int}
    (h : CameraMetadata.findRaw PlainMetadata raw tag=some (v::vs)) :
    PlainMetadata.values (PlainMetadata.ofRaw raw) tag≠[] := by
  simp only [CameraMetadata.findRaw] at h
  intro hv
  rw [hv] at h
  split_ifs at h

instance : LawfulCameraMetadata PlainMetadata where
  empty_empty := rfl
  ofRaw_nil := rfl
  appendRaw_nil := rfl
  ofRaw_find := fun _ _ _ _ h => findRaw_values h
  appendRaw_find := fun _ _ _ _ h => findRaw_values h
  update_ok := fun _ _ _ => ⟨_,rfl⟩
  update_find := by
    intro m m' tag v other h ho hm
    obtain rfl := Option.some.inj h
    obtain ⟨w,hw⟩ := values_ne_nil.mp hm
    refine values_ne_nil.mpr ⟨w,?_⟩
    simp [hw,Ne.symm ho]
  append_find := by
    intro m n tag h
    obtain ⟨w,hw⟩ := values_ne_nil.mp h
    exact values_ne_nil.mpr ⟨w,List.mem_append_left _ hw⟩
  sort_find := fun _ _ h => h

/-- ERROR_REQUEST comes first, then the shutter and the result find the frame. -/
theorem no_set_err_single : ∃ w,
    Run (Guarded Expected (LegalStep fun _ => 5)) plainWorld
      [.markPendingRequest 0 1 firstExtras,.error .ERROR_REQUEST 0,.shutter 0 5,
        resultOf [5] [frameBuffer]] w ∧
    w.Unbroken ∧ ∀ msg w',LegalStep (fun _ => 5) w msg w' → (w'.Unbroken ↔ w.Expected msg) := by
  have hr : Run (Guarded Expected (LegalStep fun _ => 5)) plainWorld
      [.markPendingRequest 0 1 firstExtras,.error .ERROR_REQUEST 0,.shutter 0 5,
        resultOf [5] [frameBuffer]] _ :=
    Run.of_follows (a := fun w m => (w.receive m).client.errorCb=true ∧ w.Expected m ∧
        Truthful (fun _ => 5) w m ∧ w.Legal m) (f := receive)
      (fun w m h => ⟨h.2.1,h.2.2.1,h.2.2.2,rfl,callable_of_installed h.1⟩)
      ⟨⟨rfl,trivial,trivial,rfl⟩,⟨rfl,trivial,trivial,Or.inl rfl,_,rfl⟩,
        ⟨rfl,rfl,rfl,by decide,by decide,_,rfl,rfl⟩,
        ⟨rfl,fun _ => Or.inl rfl,⟨fun t h => ((List.cons.inj (Option.some.inj h)).1).symm,
          fun _ => ⟨rfl,fun s md h => by cases h; exact Or.inl rfl⟩⟩,
        _,rfl,⟨by decide,rfl,fun _ _ => rfl,fun h => absurd h.1 (by decide),fun _ => rfl,
          fun _ => by decide,Or.inl rfl⟩⟩,trivial⟩
  exact ⟨_,hr,no_set_err_iff plain_start hr⟩

/-- ERROR_REQUEST and then the buffer of a frame; its shutter, which comes last, is unknown. -/
theorem late_shutter_sets_error : ¬∀ (s : PendingRequests PlainMetadata) msgs w,Start s →
    Run (LegalStep fun _ => 5) ⟨s,fun _ => none,0,0,[]⟩ msgs w → w.Unbroken := by
  intro hall
  have hr : Run (LegalStep fun _ => 5) plainWorld [.markPendingRequest 0 1 firstExtras,
      .error .ERROR_REQUEST 0,resultOf [] [frameBuffer],.shutter 0 5] _ :=
    Run.of_follows (a := fun w m => (w.receive m).client.errorCb=true ∧
        Truthful (fun _ => 5) w m ∧ w.Legal m) (f := receive)
      (fun w m h => ⟨h.2.1,h.2.2,rfl,callable_of_installed h.1⟩)
      ⟨⟨rfl,trivial,rfl⟩,⟨rfl,trivial,Or.inl rfl,_,rfl⟩,
        ⟨rfl,⟨fun t h => by simp [CameraMetadata.findRaw] at h,fun h => absurd h (by decide)⟩,
        _,rfl,⟨by decide,rfl,fun _ _ => rfl,fun h => absurd h.1 (by decide),fun _ => rfl,
          fun _ => by decide,Or.inl rfl⟩⟩,⟨rfl,rfl,by decide,by decide,_,rfl,rfl⟩,trivial⟩
  have silent := hall _ _ _ plain_start hr
  revert silent
  unfold Unbroken
  decide

end HalWorld
end IotMedia.Camera
