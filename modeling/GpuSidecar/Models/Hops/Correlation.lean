import GpuSidecar.Core.Text.Decimal
import GpuSidecar.Core.Text.Scan
import GpuSidecar.Models.Routing.EventLog

/-!
# Correlation ids through both hops

The router names a request after the client's header or makes up a name, and names each
attempt after the request. The sidecar checks both names again by rules of its own
(`orGenerate` and `sanitizeID` in `internal/dataplane/proxy.go`, `orGen` in
`internal/router/gateway.go`), and the trajectory of a request is put together by the names
that the two have logged.

The rules agree, so the sidecar takes over every name of a request. It takes over the name of
an attempt only as long as that has at most 128 bytes; for a longer one it makes up a name,
which is never that of another attempt.
-/

namespace GpuSidecar.Hops

open Http Routing Text Word

/-- The characters that both hops allow in a name. -/
def safeChar (c : Char) : Bool :=
  c == '-' || c == '_' || c == '.' || decide ('0' ≤ c ∧ c ≤ '9') || decide ('a' ≤ c ∧ c ≤ 'z') ||
    decide ('A' ≤ c ∧ c ≤ 'Z')

/-- The sidecar's check of a name from outside; one that fails it counts as absent. -/
def sanitizeID (v : String) : String :=
  if byteLength v.toList = 0 ∨ 128 < byteLength v.toList then ""
  else if v.toList.all safeChar then v
  else ""

/-- A name made up from a clock reading in nanoseconds. -/
def generated (tag : String) (now : ℤ) : String := tag ++ "_" ++ toString now

/-- The sidecar's name for a request or an attempt. -/
def orGenerate (v tag : String) (now : ℤ) : String :=
  if sanitizeID v ≠ "" then sanitizeID v else generated tag now

/-- The router's name for a request. -/
def orGen (v tag : String) (now : ℤ) : String :=
  if 0 < byteLength v.toList ∧ byteLength v.toList ≤ 128 ∧ v.toList.all safeChar = true then v
  else generated tag now

/-- The name under which a sidecar logs an attempt. -/
def sidecarRoute (reqID : String) (attempt : ℕ) (now : ℤ) : String :=
  orGenerate (routeID reqID attempt) "rt" now

/-- The route that an event carries, empty if there is none. -/
def eventRoute : RouterEvent → String
  | .requestReceived _ _ => ""
  | .backendSnapshotRead _ => ""
  | .routeDecided route _ _ => route
  | .routeAttemptStarted route _ => route
  | .routeAttemptFailed route _ _ _ => route
  | .ofAttempt route _ _ => route

/-! ### Names that pass -/

/-- A name that both hops accept. -/
structure IsID (v : String) : Prop where
  nonempty : v ≠ ""
  length : v.toList.length ≤ 128
  safe : ∀ c ∈ v.toList, safeChar c = true

theorem utf8Size_of_safeChar {c : Char} (h : safeChar c = true) : c.utf8Size = 1 := by
  have hascii : c.val ≤ 127 := by
    simp only [safeChar, Bool.or_eq_true, beq_iff_eq, decide_eq_true_eq] at h
    rcases h with ((((rfl | rfl) | rfl) | h) | h) | h
    · decide
    · decide
    · decide
    · exact UInt32.le_trans (b := '9'.val) h.2 (by decide)
    · exact UInt32.le_trans (b := 'z'.val) h.2 (by decide)
    · exact UInt32.le_trans (b := 'Z'.val) h.2 (by decide)
  exact if_pos hascii

theorem byteLength_of_safe {s : Chars} (h : ∀ c ∈ s, safeChar c = true) :
    byteLength s = s.length := by
  rw [byteLength, List.map_congr_left (fun c hc => utf8Size_of_safeChar (h c hc))]
  simp

theorem isID_iff {v : String} : IsID v ↔
    0 < byteLength v.toList ∧ byteLength v.toList ≤ 128 ∧ v.toList.all safeChar = true := by
  constructor
  · intro h
    rw [byteLength_of_safe h.safe]
    have hpos : 0 < v.toList.length := by
      rw [List.length_pos_iff, Ne, String.toList_eq_nil_iff]
      exact h.nonempty
    exact ⟨hpos, h.length, List.all_eq_true.mpr h.safe⟩
  · rintro ⟨hpos, hlength, hsafe⟩
    have hsafe' := List.all_eq_true.mp hsafe
    rw [byteLength_of_safe hsafe'] at hpos hlength
    refine ⟨?_, hlength, hsafe'⟩
    rintro rfl
    exact absurd hpos (by decide)

instance decidableIsID (v : String) : Decidable (IsID v) := decidable_of_iff' _ isID_iff

theorem sanitizeID_eq (v : String) : sanitizeID v = if IsID v then v else "" := by
  simp only [sanitizeID, isID_iff, Nat.pos_iff_ne_zero]
  by_cases hzero : byteLength v.toList = 0
  · simp [hzero]
  · by_cases hlong : 128 < byteLength v.toList
    · simp [hlong, not_le.mpr hlong]
    · simp [hzero, hlong, not_lt.mp hlong]

/-- The two hops name by the same rule. -/
theorem orGenerate_eq (v tag : String) (now : ℤ) :
    orGenerate v tag now = if IsID v then v else generated tag now := by
  rw [orGenerate, sanitizeID_eq]
  by_cases hid : IsID v
  · simp [hid, hid.nonempty]
  · simp [hid]

theorem orGen_eq (v tag : String) (now : ℤ) :
    orGen v tag now = if IsID v then v else generated tag now := by
  simp only [orGen, isID_iff]

theorem safeChar_of_isDigit {c : Char} (h : c.isDigit = true) : safeChar c = true := by
  have hrange : '0' ≤ c ∧ c ≤ '9' := by
    simpa [Char.isDigit, Char.le_def] using h
  simp [safeChar, hrange]

/-- A name made up from a 64-bit clock is accepted. -/
theorem isID_generated {tag : String} (htag : tag.toList.length ≤ 64)
    (hsafe : tag.toList.all safeChar = true) {now : ℤ} (hnow : InRange now) :
    IsID (generated tag now) where
  nonempty := by
    intro h
    simpa [generated] using congrArg String.toList h
  length := by
    have hdigits := length_toString_int_le hnow
    simp only [generated, String.toList_append, List.length_append]
    have hsep : "_".toList.length = 1 := by decide
    omega
  safe := by
    intro c hc
    simp only [generated, String.toList_append, List.mem_append] at hc
    rcases hc with (hc | hc) | hc
    · exact List.all_eq_true.mp hsafe c hc
    · have hsep : c = '_' := by simpa using hc
      rw [hsep]
      decide
    · rcases mem_toString_int hc with rfl | hdigit
      · decide
      · exact safeChar_of_isDigit hdigit

/-- Whatever a client sends, the router's name for its request is one that it would accept
itself. -/
theorem isID_orGen (header : String) {now : ℤ} (hnow : InRange now) :
    IsID (orGen header "creq" now) := by
  rw [orGen_eq]
  split
  · assumption
  · exact isID_generated (by decide) (by decide) hnow

/-! ### The names of attempts -/

theorem toList_routeID (reqID : String) (k : ℕ) :
    (routeID reqID k).toList = reqID.toList ++ '.' :: 'a' :: (toString k).toList := by
  simp [routeID, String.toList_append]

/-- The name of an attempt tells its request and its number. -/
theorem routeID_inj {r r' : String} {k k' : ℕ} (h : routeID r k = routeID r' k') :
    r = r' ∧ k = k' := by
  have hlist : (r.toList ++ ['.']) ++ 'a' :: (toString k).toList =
      (r'.toList ++ ['.']) ++ 'a' :: (toString k').toList := by
    have hroute := congrArg String.toList h
    rw [toList_routeID, toList_routeID] at hroute
    simpa using hroute
  have hdigit : ∀ n : ℕ, 'a' ∉ (toString n).toList := fun n hmem =>
    absurd (isDigit_of_mem_toString hmem) (by decide)
  obtain ⟨hreq, hnumber⟩ := append_cons_inj_of_last (hdigit k) (hdigit k') hlist
  exact ⟨String.toList_injective (List.append_cancel_right hreq), toString_nat_inj hnumber⟩

/-- The name of an attempt is accepted if and only if it is short enough. -/
theorem isID_routeID {reqID : String} (h : IsID reqID) (k : ℕ) :
    IsID (routeID reqID k) ↔ reqID.toList.length + 2 + (toString k).toList.length ≤ 128 := by
  have hlength : (routeID reqID k).toList.length =
      reqID.toList.length + 2 + (toString k).toList.length := by
    rw [toList_routeID, List.length_append, List.length_cons, List.length_cons]
    omega
  constructor
  · intro hroute
    rw [← hlength]
    exact hroute.length
  · intro hshort
    refine ⟨?_, by omega, ?_⟩
    · intro hempty
      have := congrArg String.toList hempty
      simp [toList_routeID] at this
    · intro c hc
      rw [toList_routeID] at hc
      rcases List.mem_append.mp hc with hc | hc
      · exact h.safe c hc
      · rcases List.mem_cons.mp hc with rfl | hc
        · decide
        · rcases List.mem_cons.mp hc with rfl | hc
          · decide
          · exact safeChar_of_isDigit (isDigit_of_mem_toString hc)

/-- A name that a sidecar makes up is not that of an attempt. -/
theorem generated_ne_routeID (now : ℤ) (reqID : String) (k : ℕ) :
    generated "rt" now ≠ routeID reqID k := by
  intro h
  have hdot : '.' ∈ (generated "rt" now).toList := by
    rw [h, toList_routeID]
    simp
  simp only [generated, String.toList_append, List.mem_append] at hdot
  rcases hdot with (hdot | hdot) | hdot
  · exact absurd hdot (by decide)
  · exact absurd hdot (by decide)
  · rcases mem_toString_int hdot with hsign | hdigit
    · exact absurd hsign (by decide)
    · exact absurd hdigit (by decide)

/-! ### The name on the client's response -/

/-- The response has been committed under the name of the request. -/
def Answered (reqID : String) (w : ResponseWriter) : Prop :=
  ∃ sent, w.committed = some sent ∧ sent.2 "X-Request-ID" = [reqID]

/-- Nothing has been committed under another name. -/
def Unspoiled (reqID : String) (w : ResponseWriter) : Prop :=
  w.committed = none ∨ Answered reqID w

variable {reqID : String} {w : ResponseWriter}

theorem Unspoiled.writeHeader (h : Unspoiled reqID w)
    (hheader : w.header "X-Request-ID" = [reqID]) (status : ℕ) :
    Answered reqID (w.writeHeader status) := by
  rcases h with hnone | ⟨sent, hsent, hid⟩
  · exact ⟨_, ResponseWriter.writeHeader_committed hnone status, hheader⟩
  · exact ⟨sent, by simp [ResponseWriter.writeHeader, ResponseWriter.commit, hsent], hid⟩

theorem Answered.write (h : Answered reqID w) (data : Bytes) : Answered reqID (w.write data) := by
  obtain ⟨sent, hsent, hid⟩ := h
  exact ⟨sent, ResponseWriter.write_committed hsent data, hid⟩

theorem Answered.writeIgnored (h : Answered reqID w) (fails : Bool) (data : Bytes) :
    Answered reqID (w.writeIgnored fails data) := by
  obtain ⟨sent, hsent, hid⟩ := h
  exact ⟨sent, ResponseWriter.writeIgnored_committed hsent fails data, hid⟩

theorem Answered.finish (h : Answered reqID w) :
    w.finish.header "X-Request-ID" = [reqID] := by
  obtain ⟨sent, hsent, hid⟩ := h
  simpa [ResponseWriter.finish, ResponseWriter.commit, hsent] using hid

theorem Unspoiled.errorReply (h : Unspoiled reqID w) (status : ℕ) (code detail : String) :
    Answered reqID (Hops.errorReply w status code reqID detail) := by
  apply Answered.write
  apply Unspoiled.writeHeader
  · exact h
  · simp [ResponseWriter.setHeader, Header.set]

theorem Unspoiled.openStream (h : Unspoiled reqID w) (backendID : String) :
    Answered reqID (Routing.openStream w reqID backendID) := by
  apply Unspoiled.writeHeader
  · exact h
  · simp [ResponseWriter.setHeader, Header.set]

/-- The streaming loop keeps what was committed when the stream was opened. -/
theorem Answered.loop (d : Downstream) {s : ForwardStream} (h : Answered reqID s.writer)
    (reads : Reads) : Answered reqID
      (reads.loop (ForwardStream.chunk d) (ForwardStream.check d) (ForwardStream.stop d)
        s).writer := by
  refine Reads.loop_rule (I := fun _ (t : ForwardStream) => Answered reqID t.writer)
    (Q := fun (r : Forwarded) => Answered reqID r.writer) ?_ ?_ ?_ ?_ reads [] ?_ h
  · intro _ t line r ht hr
    rcases t.chunk_cases d line with ⟨u, hu, -⟩ | ⟨r', hr', -, hwriter⟩
    · rw [hu] at hr
      cases hr
    · rw [hr'] at hr
      cases hr
      rw [hwriter]
      exact ht
  · rintro _ t line u ⟨sent, hsent, hid⟩ hu
    rcases t.chunk_cases d line with ⟨u', hu', -, hkept, -⟩ | ⟨r, hr, -⟩
    · rw [hu'] at hu
      cases hu
      exact ⟨sent, hkept sent hsent, hid⟩
    · rw [hr] at hu
      cases hu
  · intro _ t r ht hr
    rw [ForwardStream.check] at hr
    split at hr
    · cases hr
      exact ht
    · cases hr
  · intro _ t u ht hu
    rw [ForwardStream.check] at hu
    split at hu
    · cases hu
    · cases hu
      exact ht
  · intro t ht
    rw [ForwardStream.stop.eq_def]
    split
    · exact ht
    · split
      · split
        · exact ht
        · exact ht
      · split
        · exact ht
        · exact ht

/-- An attempt commits under the name of its request, or leaves the writer alone. -/
theorem Unspoiled.forward (h : Unspoiled reqID w) (d : Downstream) (backendID : String)
    (stream : Bool) (reply : Reply) :
    Answered reqID (Routing.forward d w backendID reqID stream reply).writer ∨
      (Routing.forward d w backendID reqID stream reply).sent = false ∧
        (Routing.forward d w backendID reqID stream reply).writer = w := by
  cases reply with
  | error err => exact .inr ⟨rfl, rfl⟩
  | ok resp =>
    cases hrej : rejects resp.status with
    | true =>
      right
      simp [Routing.forward, hrej]
    | false =>
      cases stream with
      | false =>
        left
        simp only [Routing.forward, hrej, Bool.false_eq_true, if_false, Bool.not_false, if_true]
        apply Answered.writeIgnored
        apply Unspoiled.writeHeader
        · exact h
        · simp [ResponseWriter.setHeader, Header.set]
      | true =>
        cases hflush : d.flusher with
        | false =>
          right
          simp [Routing.forward, hrej, hflush]
        | true =>
          left
          rw [forward_stream_eq w backendID reqID hrej hflush]
          exact (h.openStream backendID).loop d _

variable {g : GatewayRun} {s t : AttemptLoop}

/-- Every event with a route belongs to an attempt that was made. -/
def Routed (g : GatewayRun) (s : AttemptLoop) : Prop :=
  ∀ e ∈ s.events, eventRoute e = "" ∨
    ∃ a ∈ s.attempts, eventRoute e = routeID g.reqID a.number

/-- The events of an attempt carry its route. -/
theorem eventRoute_attemptLog {made : RouteDecision × Attempt} {e : RouterEvent}
    (he : e ∈ g.attemptLog made) : eventRoute e = routeID g.reqID made.2.number := by
  simp only [GatewayRun.attemptLog, List.cons_append, List.nil_append, List.mem_cons,
    List.mem_append, List.mem_map] at he
  rcases he with rfl | rfl | ⟨_, -, rfl⟩ | he
  · rfl
  · rfl
  · rfl
  · split at he
    · cases he
    · rw [List.mem_singleton.mp he]
      rfl

theorem Routed.attempt (h : Routed g s) {made : RouteDecision × Attempt}
    (hattempts : t.attempts = s.attempts ++ [made.2])
    (hevents : t.events = s.events ++ g.attemptLog made) : Routed g t := by
  intro e he
  rw [hevents] at he
  rw [hattempts]
  rcases List.mem_append.mp he with he | he
  · refine (h e he).imp_right ?_
    rintro ⟨b, hb, hroute⟩
    exact ⟨b, List.mem_append_left _ hb, hroute⟩
  · exact .inr ⟨made.2, by simp, eventRoute_attemptLog he⟩

theorem Routed.tryOnce (h : Routed g s)
    (ht : g.tryOnce s = .error t ∨ g.tryOnce s = .ok t) : Routed g t := by
  rcases g.tryOnce_logs s with hcase | ⟨tried, hcase⟩ | ⟨dec, tried, -, hcase⟩ |
    ⟨dec, tried, -, hcase⟩ <;> rw [hcase] at ht <;> rcases ht with ht | ht <;> cases ht
  · intro e he
    rcases List.mem_append.mp he with he | he
    · exact h e he
    · rw [List.mem_singleton.mp he]
      exact .inl rfl
  · exact h
  · exact h.attempt rfl rfl
  · exact h.attempt rfl rfl

/-- Every request ends with a response under its name, and with the routes of its attempts in
the log. -/
theorem chatCompletions_named (g : GatewayRun) :
    Answered g.reqID g.chatCompletions.writer ∧ Routed g g.chatCompletions := by
  rw [GatewayRun.chatCompletions]
  cases g.readErr with
  | some err =>
    refine ⟨Unspoiled.errorReply (.inl rfl) 400 "READ_BODY" err, ?_⟩
    intro e he
    cases he
  | none =>
    refine g.tryAll_rule (I := fun _ s => Unspoiled g.reqID s.writer ∧ Routed g s)
      (Q := fun s => Answered g.reqID s.writer ∧ Routed g s) ?_ ?_ ?_ _ ⟨.inl rfl, ?_⟩
    · rintro _ s t ⟨hw, hr⟩ ht
      refine ⟨?_, hr.tryOnce (.inl ht)⟩
      rcases g.tryOnce_cases s with ⟨_, -, hcase⟩ | ⟨_, _, -, -, hcase⟩ |
        ⟨_, _, _, hsent, hcase⟩ | ⟨_, _, _, -, hcase⟩ <;> rw [hcase] at ht <;> cases ht
      · exact hw.errorReply _ _ _
      · rcases hw.forward (g.client s.attempt) _ g.features.stream _ with hdone | ⟨hunsent, -⟩
        · exact hdone
        · exact absurd (hsent.symm.trans hunsent) (by decide)
    · rintro _ s t ⟨hw, hr⟩ ht
      refine ⟨?_, hr.tryOnce (.inr ht)⟩
      rcases g.tryOnce_cases s with ⟨_, -, hcase⟩ | ⟨_, _, -, -, hcase⟩ |
        ⟨_, _, _, -, hcase⟩ | ⟨_, _, _, -, hcase⟩ <;> rw [hcase] at ht <;> cases ht
      · exact hw
      · rcases hw.forward (g.client s.attempt) _ g.features.stream _ with hdone | ⟨-, hsame⟩
        · exact .inr hdone
        · exact (congrArg (Unspoiled g.reqID) hsame).mpr hw
    · rintro s ⟨hw, hr⟩
      exact ⟨hw.errorReply _ _ _, hr⟩
    · intro e he
      simp only [GatewayRun.begin, List.mem_cons, List.not_mem_nil, or_false] at he
      rcases he with rfl | rfl
      · exact .inl rfl
      · exact .inl rfl

/-- What the names of a request tie together. -/
structure Correlates (g : GatewayRun) : Prop where
  /-- The client reads the name of its request, and no other. -/
  answered : g.chatCompletions.writer.finish.header "X-Request-ID" = [g.reqID]
  /-- Every sidecar logs the request under this name. -/
  request : ∀ now, orGenerate g.reqID "req" now = g.reqID
  /-- A sidecar logs an attempt under the router's name exactly if that is short enough. -/
  route : ∀ k now, sidecarRoute g.reqID k now = routeID g.reqID k ↔
    g.reqID.toList.length + 2 + (toString k).toList.length ≤ 128
  /-- A sidecar's name for an attempt is on no event of the router but those of requests with this
  request's id, which have an attempt of the same number. -/
  joined : ∀ k now, ∀ g' : GatewayRun, ∀ e ∈ g'.chatCompletions.events,
    eventRoute e = sidecarRoute g.reqID k now →
      g'.reqID = g.reqID ∧ ∃ a ∈ g'.chatCompletions.attempts, a.number = k

/-- The names of every request correlate, whatever name its client sends. -/
theorem correlates_of_orGen (g : GatewayRun) {header : String} {now : ℤ} (hnow : InRange now)
    (hid : g.reqID = orGen header "creq" now) : Correlates g := by
  have hreq : IsID g.reqID := hid ▸ isID_orGen header hnow
  have hroute : ∀ k t, sidecarRoute g.reqID k t =
      if IsID (routeID g.reqID k) then routeID g.reqID k else generated "rt" t :=
    fun k t => orGenerate_eq _ _ _
  refine ⟨(chatCompletions_named g).1.finish, fun t => ?_, fun k t => ?_, ?_⟩
  · rw [orGenerate_eq, if_pos hreq]
  · rw [hroute, ← isID_routeID hreq k]
    by_cases hshort : IsID (routeID g.reqID k)
    · simp [hshort]
    · simp [hshort, generated_ne_routeID]
  · intro k t g' e he hname
    rcases (chatCompletions_named g').2 e he with hnone | ⟨a, ha, hlogged⟩
    · -- a sidecar's name for an attempt is never empty
      rw [hnone, hroute] at hname
      split at hname
      · rename_i hshort
        exact absurd hname.symm hshort.nonempty
      · simpa [generated] using congrArg String.toList hname
    · rw [hlogged, hroute] at hname
      split at hname
      · obtain ⟨hsame, hnumber⟩ := routeID_inj hname
        exact ⟨hsame, a, ha, hnumber⟩
      · exact absurd hname.symm (generated_ne_routeID _ _ _)

/-- A client's name of the greatest length. -/
def longID : String := String.ofList (List.replicate 128 'x')

/-- A request of that name that no backend takes. -/
def longRun : GatewayRun where
  reqID := orGen longID "creq" 0
  readErr := none
  features := ⟨false, 0, 0, "", 0, false⟩
  maxRetries := 0
  snapshot := fun _ => ⟨[idleBackend "a"]⟩
  selectBackend := fun _ => Policy.roundRobin.selectBackend ⟨0, none⟩
  reply := fun _ _ => .error "refused"
  client := fun _ => Downstream.steady

theorem toList_longID : longID.toList = List.replicate 128 'x' := String.toList_ofList

theorem isID_longID : IsID longID where
  nonempty h := by simpa [toList_longID] using congrArg String.toList h
  length := by rw [toList_longID, List.length_replicate]
  safe c hc := by
    rw [toList_longID] at hc
    rw [List.eq_of_mem_replicate hc]
    decide

/-- The router and the sidecar keep the client's name, and the sidecar makes up one for the
attempt. -/
theorem longRun_correlates :
    longRun.reqID = longID ∧ orGenerate longRun.reqID "req" 7 = longID ∧
      sidecarRoute longRun.reqID 0 7 = "rt_7" ∧
      sidecarRoute longRun.reqID 0 7 ≠ routeID longRun.reqID 0 := by
  have hid : longRun.reqID = orGen longID "creq" 0 := by simp only [longRun]
  have hname : longRun.reqID = longID := by rw [hid, orGen_eq, if_pos isID_longID]
  have hnow : InRange 0 := ⟨by decide, by decide⟩
  have hall := correlates_of_orGen longRun hnow hid
  have hlost : sidecarRoute longRun.reqID 0 7 ≠ routeID longRun.reqID 0 := by
    rw [Ne, hall.route, hname, toList_longID, List.length_replicate]
    decide
  refine ⟨hname, (hall.request 7).trans hname, ?_, hlost⟩
  rw [sidecarRoute, orGenerate_eq] at hlost ⊢
  split at hlost
  · exact absurd rfl hlost
  · rw [if_neg (by assumption)]
    decide

end GpuSidecar.Hops
