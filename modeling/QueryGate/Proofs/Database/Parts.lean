import QueryGate.Proofs.Value.Mapping
import QueryGate.Proofs.World.Confining
import QueryGate.Tool

/-!
# The parts of the operations

One pass through the operations of the service, and through the tools that work on it, for every
property that an action inherits from its parts. Opening a pool, closing it, and a change of the
service's state are no calls on an open pool, so that here the property has to be given. A
certificate file that cannot be read is reported by its path, which need not be a text, so that
this fault has to be allowed for itself.

To connect is to open a pool, under the next number, which then is the service's own; if that
fails no pool was opened. To probe is to work on the open pool. Neither changes the settings that
the service was made with.
-/

namespace QueryGate

open Act (Inherited)

namespace Act.Inherited

variable {σ : Type} {allowed : Fault → Prop} {P : ∀ {α : Type}, Act σ α → Prop}

theorem gateCheck (h : Inherited allowed (fun _ => True) P) {gate : Gate} {sql : String} :
    P (gate.check sql) := by
  refine h.bind (h.forM (fun _ => h.send trivial) _) fun _ => ?_
  cases gate.judge sql with
  | ok _ => exact h.pure
  | error refusal => cases refusal <;> exact h.raise rfl rfl

theorem accept (h : Inherited allowed (fun _ => True) P) {α : Type} {record : String}
    {checked : Validation.Checked α} : P (Tool.accept record checked : Act σ α) := by
  unfold Tool.accept
  cases checked.toExcept record with
  | ok value => exact h.pure
  | error data => exact h.raise rfl rfl

end Act.Inherited

namespace Service

open Act (Inherited)

/-- The record goes to the channel of the database. -/
def IsOwn (record : Log.Record) : Prop := record.channel = Log.Channel.database

variable {α : Type} {allowed : Fault → Prop} {P : ∀ {α : Type}, Action α → Prop}

theorem timeoutStatement_eq_error {timeout : Int} {fault : Fault}
    (h : timeoutStatement timeout = .error fault) : fault = .oversized := by
  unfold timeoutStatement at h
  split at h
  · cases h
  · cases h
    rfl

theorem queryError_legible (error : DriverError) :
    ∃ message : String, (queryError error).message = message := by
  unfold queryError
  split <;> exact ⟨_, rfl⟩

section

variable (h : Inherited allowed IsOwn P)

include h

theorem inherited_checkCertificate (hunread : ∀ path, allowed (unreadCertificate path))
    {settings : Settings} : P (checkCertificate settings) := by
  unfold checkCertificate
  cases settings.certificateFile with
  | none => exact h.pure
  | some path =>
    refine h.bind h.world fun world => ?_
    split
    · exact h.pure
    · exact h.raise rfl rfl
    · exact h.bind (h.send rfl) fun _ => h.throw (hunread path)

theorem inherited_openOwn (hopen : ∀ parameters, P (Act.openPool parameters))
    (hupdate : ∀ pool, P (Act.update fun service => { service with pool := some pool }))
    {settings : Settings} : P (openOwn settings) := by
  refine h.bind (h.send rfl) fun _ => h.bind (h.recover (hopen _) fun fault hfault => ?_) hupdate
  cases fault with
  | driver error => exact h.bind (h.send rfl) fun _ => h.raise rfl rfl
  | _ => exact h.throw hfault

theorem inherited_connect (hunread : ∀ path, allowed (unreadCertificate path))
    (hopen : ∀ parameters, P (Act.openPool parameters))
    (hupdate : ∀ pool, P (Act.update fun service => { service with pool := some pool })) :
    P connect :=
  h.bind h.self fun _ => h.bind (inherited_checkCertificate h hunread) fun _ =>
    inherited_openOwn h hopen hupdate

theorem inherited_withConnection {act : Action α} (hact : P act) : P (withConnection act) := by
  refine h.bind h.self fun service => ?_
  cases service.pool with
  | none => exact h.bind (h.send rfl) fun _ => h.raise rfl rfl
  | some pool =>
    refine h.bind (h.recover h.checkOut fun fault hfault => ?_) fun _ => h.ensuring hact h.giveBack
    cases fault with
    | driver error => exact iteInduction (fun _ => h.raise rfl rfl) fun _ => h.throw hfault
    | _ => exact h.throw hfault

theorem inherited_withCursor {named : Bool} {act : Action α} (hact : P act) :
    P (withCursor named act) :=
  h.bind h.openCursor fun _ => h.ensuring hact h.closeCursor

theorem inherited_probe
    (hupdate : ∀ reached, P (Act.update fun service => { service with connected := reached })) :
    P probe := by
  refine h.bind (h.recover (inherited_withConnection h ?_) fun fault hfault => ?_) fun _ =>
    h.bind (hupdate true) fun _ => h.send rfl
  · exact h.bind (inherited_withCursor h (h.bind h.execute fun _ => h.fetchOne)) fun _ =>
      h.rollback
  · split
    · exact h.bind (hupdate false) fun _ => h.raise rfl rfl
    · exact h.bind (hupdate false) fun _ => h.raise rfl rfl
    · exact h.throw hfault

theorem inherited_entriesOfRows {rows : List Value} : P (entriesOfRows rows) := by
  refine h.ofExcept fun fault hfault => ?_
  obtain ⟨kind, message, rfl⟩ := Entries.isPlain_of_mapM_ofValue hfault
  exact h.admits.legible rfl ⟨_, rfl⟩

theorem inherited_runStatements {sql : String} {readOnly : Bool} {timeout : Int} :
    P (runStatements sql readOnly timeout) := by
  have htext : P (do
      Act.execute (← Act.ofExcept (timeoutStatement timeout))
      Act.execute sql
      if ← Act.hasRows then Act.fetchAll else return [] : Action (List Value)) :=
    h.bind (h.ofExcept fun _ hfault => timeoutStatement_eq_error hfault ▸
        h.admits.legible rfl ⟨_, rfl⟩) fun _ =>
      h.bind h.execute fun _ => h.bind h.execute fun _ => h.bind h.hasRows fun _ =>
        iteInduction (fun _ => h.fetchAll) fun _ => h.pure
  unfold runStatements
  cases readOnly with
  | true => exact h.bind h.execute fun _ => htext
  | false => exact htext

theorem inherited_reportQueryFault {fault : Fault} (hfault : allowed fault) :
    P (reportQueryFault fault : Action α) := by
  cases fault with
  | driver error =>
    obtain ⟨message, hmessage⟩ := queryError_legible error
    refine h.bind h.rollback fun _ => h.bind ?_ fun _ => h.raise rfl hmessage
    unfold logQueryError
    split
    · exact h.pure
    · exact h.send rfl
    · exact h.send rfl
  | _ => exact h.throw hfault

theorem inherited_query {sql : String} {readOnly : Bool} : P (query sql readOnly) := by
  refine h.bind (h.send rfl) fun _ => h.bind h.self fun service =>
    inherited_withConnection h (h.recover ?_ fun fault => inherited_reportQueryFault h)
  exact h.bind h.readClock fun _ =>
    h.bind (inherited_withCursor h (inherited_runStatements h)) fun _ =>
      h.bind h.commit fun _ => h.bind h.readClock fun _ => h.bind (h.send rfl) fun _ =>
        inherited_entriesOfRows h

theorem inherited_tables : P tables := by
  refine h.bind (inherited_withConnection h (h.recover ?_ fun fault hfault => ?_)) fun _ =>
    h.bind (h.send rfl) fun _ => h.pure
  · exact h.bind (inherited_withCursor h (h.bind h.execute fun _ => h.bind h.fetchAll fun _ =>
      inherited_entriesOfRows h)) fun _ => h.bind h.rollback fun _ => h.pure
  · split
    · exact h.bind h.rollback fun _ => h.bind (h.send rfl) fun _ => h.raise rfl rfl
    · exact h.throw hfault

theorem inherited_readTable {schema table sampleQuery : String} :
    P (readTable schema table sampleQuery) := by
  have hsample (columns : List Entries) : P (do
      Act.execute sampleQuery
      return (columns, ← entriesOfRows (← Act.fetchAll)) :
        Action (List Entries × List Entries)) :=
    h.bind h.execute fun _ => h.bind h.fetchAll fun _ => h.bind (inherited_entriesOfRows h)
      fun _ => h.pure
  unfold readTable
  exact h.bind h.executeWith fun _ => h.bind h.fetchAll fun _ =>
    h.bind (inherited_entriesOfRows h) fun columns =>
      iteInduction (fun _ => h.raise_bind rfl rfl) fun _ => hsample columns

theorem inherited_tableDetails {schema table : String} : P (tableDetails schema table) := by
  unfold tableDetails
  refine iteInduction (fun _ => h.raise_bind rfl rfl) fun _ => ?_
  cases Sql.sampleRowsQuery schema table Sql.sampleRowLimit with
  | error failure => exact h.raise_bind rfl rfl
  | ok sampleQuery =>
    refine h.bind h.pure fun sampleQuery =>
      h.bind (inherited_withConnection h (h.recover ?_ fun fault hfault => ?_)) fun _ =>
        h.bind (h.send rfl) fun _ => h.pure
    · exact h.bind (inherited_withCursor h (inherited_readTable h)) fun _ =>
        h.bind h.rollback fun _ => h.pure
    · split
      · exact h.bind h.rollback fun _ => h.throw hfault
      · exact h.bind h.rollback fun _ => h.bind (h.send rfl) fun _ => h.raise rfl rfl
      · exact h.throw hfault

end

end Service

namespace Tool

open Act (Inherited)

variable {allowed : Fault → Prop} {P : ∀ {α : Type}, Service.Action α → Prop}

section

variable (h : Inherited allowed (fun _ => True) P)

include h

private theorem service : Inherited allowed Service.IsOwn P := h.narrow fun _ _ => trivial

theorem inherited_reportFault {α : Type} {fault : Fault} (hfault : allowed fault) :
    P (reportFault fault : Service.Action α) := by
  unfold reportFault
  split
  · exact h.throw hfault
  · exact iteInduction (fun hexception => h.bind (h.send trivial) fun _ =>
      h.throw (h.admits.quoting hexception hfault _)) fun _ => h.throw hfault

theorem inherited_query {gate : Gate} {sql : String} : P (query gate sql) := by
  refine h.bind h.gateCheck fun _ => h.bind (h.recover ?_ fun fault => inherited_reportFault h)
    fun _ => h.accept
  exact h.bind h.readClock fun _ => h.bind (Service.inherited_query (service h)) fun _ =>
    h.bind h.readClock fun _ => h.pure

theorem inherited_tables : P tables :=
  h.bind (Service.inherited_tables (service h)) fun rows => h.bind (h.mapM (fun _ => h.accept) rows)
    fun _ => h.pure

theorem inherited_tableDetails {schema table : String} : P (tableDetails schema table) := by
  unfold tableDetails
  exact iteInduction (fun _ => h.raise_bind rfl rfl) fun _ =>
    h.bind (Service.inherited_tableDetails (service h)) fun _ => h.bind (h.send trivial) fun _ =>
      h.accept

end

end Tool

variable {σ α : Type}

/-- Either a fault comes of it and everything stays as it is, or a pool is opened under the next
number, and the state becomes its owner. -/
def OpensPool (value : Nat → α) (own : Nat → σ → σ) (before : σ × Pools) (r : Except Fault α)
    (after : σ × Pools) : Prop :=
  (∃ fault, r = .error fault ∧ after = before) ∨
  (r = .ok (value before.2.next) ∧ after = (own before.2.next before.1, before.2.openNext))

theorem Act.openPool_opens (parameters : Parameters) (stage : Stage σ) :
    OpensPool id (fun _ => id) stage.lasting ((Act.openPool parameters).start stage).1
      ((Act.openPool parameters).start stage).2.lasting := by
  have hopened : World.pools { stage.world with
      journal := stage.world.journal ++ [⟨.openPool parameters, .opened stage.world.nextPool⟩]
      nextPool := stage.world.nextPool + 1 } = stage.world.pools.openNext := by
    simp [World.pools, Pools.openNext, openedPools_concat, closedPools_concat, Event.opened?,
      Event.closed?]
  have hfailed (fault : Fault) : World.pools { stage.world with
      journal := stage.world.journal ++ [⟨.openPool parameters, .raised fault⟩] } =
        stage.world.pools := by
    simp [World.pools, openedPools_concat, closedPools_concat, Event.opened?, Event.closed?]
  rw [Act.openPool, Act.start_bind, Act.start_world]
  dsimp only
  rw [Act.start_bind, Act.perform, Act.start_bind, Act.start_world]
  simp only [Act.start_bind, Act.start_updateWorld]
  cases stage.world.script.openPool.head?.join with
  | none => exact .inr ⟨rfl, Prod.ext rfl hopened⟩
  | some reply =>
    cases reply with
    | ok _ => exact .inr ⟨rfl, Prod.ext rfl hopened⟩
    | error fault => exact .inl ⟨fault, rfl, Prod.ext rfl (hfailed fault)⟩

namespace Service

private theorem settings_inherited : Inherited (fun _ => True) IsOwn
    (fun {α : Type} (act : Action α) => act.Keeps Service.settings) :=
  .keepsStage (Service.settings ∘ Prod.fst)

theorem connect_keeps : connect.Keeps Service.settings := by
  have hopen (parameters : Parameters) : (Act.openPool parameters).Keeps Service.settings :=
    .bind .world fun _ => .bind .perform fun _ => .bind .updateWorld fun _ => .pure
  exact inherited_connect settings_inherited (fun _ => trivial) hopen
    fun _ => .update fun _ => rfl

theorem probe_keeps : probe.Keeps Service.settings :=
  inherited_probe settings_inherited fun _ => .update fun _ => rfl

theorem probe_keepsPool :
    probe.KeepsStage fun stage => (stage.self.pool, stage.world.pools) :=
  inherited_probe (.keepsStage (Prod.map Service.pool id)) fun _ _ => rfl

/-- What the check of the certificate file comes to on a disk. -/
def certificateChecked (settings : Settings) (disk : Disk) : Except Fault Unit :=
  match settings.certificateFile with
  | none => .ok ()
  | some path => match disk.openForReading path with
    | .ok () => .ok ()
    | .error .nullCharacter => .error (.file .nullCharacter)
    | .error (.refused ..) => .error (unreadCertificate path)

/-- The check of the certificate file only leaves a record behind. -/
theorem start_checkCertificate (settings : Settings) (stage : Stage Service) :
    ∃ records, (checkCertificate settings).start stage =
      (certificateChecked settings stage.world.disk,
        ⟨stage.self, { stage.world with records := stage.world.records ++ records }⟩) := by
  have hnone : stage = ⟨stage.self,
      { stage.world with records := stage.world.records ++ [] }⟩ := by
    rw [List.append_nil]
  unfold checkCertificate certificateChecked
  cases settings.certificateFile with
  | none => exact ⟨[], congrArg (Prod.mk _) hnone⟩
  | some path =>
    rw [Act.start_bind, Act.start_world]
    dsimp only
    rcases stage.world.disk.openForReading path with (_ | ⟨failure, refused⟩) | _
    · exact ⟨[], congrArg (Prod.mk _) hnone⟩
    · exact ⟨[_], rfl⟩
    · exact ⟨[], congrArg (Prod.mk _) hnone⟩

/-- The check fails with the fault of a path with a null character, or because the file is
refused. -/
theorem certificateChecked_eq_error {settings : Settings} {disk : Disk} {fault : Fault}
    (h : certificateChecked settings disk = .error fault) :
    fault = .file .nullCharacter ∨ ∃ path failure refused,
      settings.certificateFile = some path ∧
        disk.openForReading path = .error (.refused failure refused) ∧
          fault = unreadCertificate path := by
  unfold certificateChecked at h
  cases hpath : settings.certificateFile with
  | none => rw [hpath] at h; cases h
  | some path =>
    rw [hpath] at h
    dsimp only at h
    rcases hopen : disk.openForReading path with (_ | ⟨failure, refused⟩) | _
    · rw [hopen] at h
      exact .inl (Except.error.inj h).symm
    · rw [hopen] at h
      exact .inr ⟨path, failure, refused, rfl, hopen, (Except.error.inj h).symm⟩
    · rw [hopen] at h
      cases h

/-- The opened pool becomes the service's own. -/
def own (pool : Nat) (service : Service) : Service := { service with pool := some pool }

private theorem openPool_opens (parameters : Parameters) {handle : Fault → Action Nat}
    (hhandle : ∀ fault stage, ∃ reported, ((handle fault).start stage).1 = .error reported ∧
      ((handle fault).start stage).2.lasting = stage.lasting) (stage : Stage Service) :
    let act := (Act.openPool parameters).recover handle >>= fun pool => Act.update (own pool)
    OpensPool (fun _ => ()) own stage.lasting (act.start stage).1 (act.start stage).2.lasting := by
  have hopens := Act.openPool_opens parameters stage
  dsimp only
  rw [Act.start_bind, Act.start_recover]
  rcases hopen : (Act.openPool parameters).start stage with ⟨result, opened⟩
  rw [hopen] at hopens
  rcases hopens with ⟨fault, hresult, hlasting⟩ | ⟨hresult, hlasting⟩
  · obtain rfl : result = .error fault := hresult
    obtain ⟨reported, hreported, hkept⟩ := hhandle fault opened
    rcases hhandled : (handle fault).start opened with ⟨ended, final⟩
    rw [hhandled] at hreported hkept
    obtain rfl : ended = .error reported := hreported
    simp only [hhandled]
    exact .inl ⟨reported, rfl, hkept.trans hlasting⟩
  · obtain rfl : result = .ok _ := hresult
    simp only [Stage.lasting, Prod.mk.injEq] at hlasting
    exact .inr ⟨rfl, Prod.ext (congrArg (own _) hlasting.1) hlasting.2⟩

theorem connect_opens (stage : Stage Service) :
    OpensPool (fun _ => ()) own stage.lasting (connect.start stage).1
      (connect.start stage).2.lasting := by
  have hfault (shown : Service × Pools) (fault : Fault) :
      OpensPool (fun _ => ()) own shown (.error fault) shown := .inl ⟨fault, rfl, rfl⟩
  have hchecked (settings : Settings) : (checkCertificate settings).KeepsStage Stage.lasting :=
    inherited_checkCertificate (.keepsStage id) fun _ => trivial
  refine Act.KeepsStage.start_bind_rel .self hfault (fun service => ?_) stage
  refine Act.KeepsStage.start_bind_rel (hchecked _) hfault fun _ => ?_
  refine Act.KeepsStage.start_bind_rel .send_lasting hfault fun _ => openPool_opens _ ?_
  intro fault stage
  cases fault <;> exact ⟨_, rfl, rfl⟩

/-- After opening and probing there is a new pool if both returned; otherwise there may be one. -/
theorem opening_pools (settings : Settings) (world : World) :
    let final := (do connect; probe : Action Unit).start ⟨new settings, world⟩
    (∃ fault, final.1 = .error fault ∧
      (final.2.world.pools = world.pools ∨ final.2.world.pools = world.pools.openNext)) ∨
    (final.1 = .ok () ∧ final.2.self.pool = some world.nextPool ∧
      final.2.world.pools = world.pools.openNext) := by
  have hconnect := connect_opens ⟨new settings, world⟩
  rw [Act.start_bind]
  rcases hstart : connect.start ⟨new settings, world⟩ with ⟨result, connected⟩
  rw [hstart] at hconnect
  rcases hconnect with ⟨fault, hresult, hlasting⟩ | ⟨hresult, hlasting⟩
  · obtain rfl : result = .error fault := hresult
    exact .inl ⟨fault, rfl, .inl (congrArg Prod.snd hlasting)⟩
  · obtain rfl : result = .ok () := hresult
    have hpool : connected.self.pool = some world.nextPool :=
      congrArg (fun kept => kept.1.pool) hlasting
    have hpools : connected.world.pools = world.pools.openNext := congrArg Prod.snd hlasting
    have hprobe := probe_keepsPool connected
    simp only [Prod.mk.injEq] at hprobe
    dsimp only
    rcases hresult : probe.start connected with ⟨result, probed⟩
    rw [hresult] at hprobe
    cases result with
    | error fault =>
      left
      exact ⟨fault, rfl, .inr (hprobe.2.trans hpools)⟩
    | ok _ =>
      right
      exact ⟨rfl, hprobe.1.trans hpool, hprobe.2.trans hpools⟩

end Service

end QueryGate
