import Tunnix.Client.Socks5
import Tunnix.Client.HttpProxy

namespace Tunnix.Handler

/-- The world after a handler is the same whether it returned a value or an error. -/
def after {Value : Type} : EStateM.Result String World Value → World
  | .ok _ world | .error _ world => world

/-- A step of a handler succeeds. -/
def succeeds {Value : Type} : EStateM.Result String World Value → Bool
  | .ok _ _ => true
  | .error _ _ => false

/-- Every id that the handler registered is unregistered, and the server was told of the end of a
connection that it had acknowledged, unless the relay took it over. -/
def Clean (env : Environment) (world : World) : Prop :=
  ∀ connId ∈ world.registered, connId ∉ world.channels ∧
    (env.connect.acknowledged = true →
      connId ∈ world.relayed ∨ .close connId ∈ world.sent ∨ .abort connId ∈ world.sent)

/-- These fields say which connections a handler answers for. -/
def World.books (world : World) : List ConnId × Finset ConnId × List ConnId :=
  (world.registered, world.channels, world.relayed)

/-- A step leaves a part of the world alone, however it ends. -/
def Keeps {Value Part : Type} (part : World → Part) (action : HandlerM Value) : Prop :=
  ∀ world, part (after (action world)) = part world

section Keeps
variable {Value Next Part : Type} {part : World → Part}

theorem Keeps.pure (value : Value) : Keeps part (Pure.pure value) := fun _ => rfl

theorem Keeps.throw (error : String) : Keeps part (MonadExcept.throw error : HandlerM Value) :=
  fun _ => rfl

theorem Keeps.ofExcept (result : Except String Value) :
    Keeps part (MonadExcept.ofExcept result : HandlerM Value) := by
  cases result <;> exact fun _ => rfl

theorem Keeps.bind {first : HandlerM Value} {second : Value → HandlerM Next}
    (keeps : Keeps part first) (later : ∀ value, Keeps part (second value)) :
    Keeps part (first >>= second) := by
  intro world
  have kept := keeps world
  change part (after (EStateM.bind first second world)) = part world
  unfold EStateM.bind
  cases ran : first world with
  | ok value next =>
      rw [ran] at kept
      exact (later value next).trans kept
  | error error next =>
      rw [ran] at kept
      exact kept

end Keeps

theorem readExact_keeps (count : Nat) :
    Keeps (fun world => (world.books, world.sent)) (readExact count) := by
  intro world
  unfold readExact
  split <;> rfl

theorem writeAll_keeps (env : Environment) (bytes : Bytes) :
    Keeps (fun world => (world.books, world.sent)) (writeAll env bytes) := by
  intro world
  unfold writeAll
  split <;> rfl

theorem sendMessage_keeps (env : Environment) (message : Message) :
    Keeps World.books (sendMessage env message) := by
  intro world
  unfold sendMessage
  split <;> rfl

end Tunnix.Handler

namespace Tunnix.Socks5
open Handler

theorem readHost_keeps (atyp : UInt8) :
    Keeps (fun world => (world.books, world.sent)) (readHost atyp) := by
  unfold readHost
  split
  · exact (readExact_keeps 4).bind fun addr => Keeps.pure _
  split
  · refine (readExact_keeps 1).bind fun len => (readExact_keeps _).bind fun domain => ?_
    split
    · exact Keeps.pure _
    · exact Keeps.throw _
  split
  · exact (readExact_keeps 16).bind fun addr => Keeps.pure _
  · exact Keeps.throw _

theorem demand_keeps {Part : Type} {part : World → Part} {condition : Prop} [Decidable condition]
    {refuse : HandlerM Unit} (keeps : Keeps part refuse) :
    Keeps part (demand condition refuse) := by
  unfold demand
  split
  · exact Keeps.pure _
  · exact keeps

/-- The handshake registers and sends nothing. -/
theorem handshake_keeps (env : Environment) :
    Keeps (fun world => (world.books, world.sent)) (handshake env) := by
  unfold handshake
  refine (readExact_keeps 2).bind fun head => ?_
  refine (demand_keeps (Keeps.throw _)).bind fun _ => ?_
  refine (readExact_keeps _).bind fun methods => ?_
  refine (demand_keeps ((writeAll_keeps env _).bind fun _ => Keeps.throw _)).bind fun _ => ?_
  refine (writeAll_keeps env _).bind fun _ => ?_
  refine (readExact_keeps 4).bind fun request => ?_
  refine (demand_keeps (Keeps.throw _)).bind fun _ => ?_
  refine (demand_keeps ((writeAll_keeps env _).bind fun _ => Keeps.throw _)).bind fun _ => ?_
  refine (readHost_keeps _).bind fun host => ?_
  exact (readExact_keeps 2).bind fun port => Keeps.pure _

end Tunnix.Socks5

namespace Tunnix.Handler

/-- A handler registers its id before it asks the server to connect. -/
def World.request (world : World) (host : String) (port : UInt16) : World :=
  { world with
    counter := world.counter + 1
    channels := insert world.counter world.channels
    registered := world.registered ++ [world.counter]
    sent := world.sent ++ [.connect world.counter host port] }

section ConnectThrough
variable {env : Environment} {host : String} {port : UInt16} {refusal : Bytes}
  {opening : ConnId → HandlerM Unit} {world : World}

/-- Only an acknowledgement opens the connection. -/
theorem connectThrough_eq : connectThrough env host port refusal opening world =
    if isAck env.connect.returned then
      (opening world.counter >>= fun _ => relay env world.counter) (world.request host port)
    else
      (writeAll env refusal >>= fun _ => unregisterConnection world.counter)
        (world.request host port) := by
  obtain ⟨⟨returned, acknowledged, honest⟩, writes, posts, reads, upload⟩ := env
  cases returned with
  | error error => rfl
  | ok answer =>
      cases answer with
      | none => rfl
      | some message =>
          cases message with
          | data id data => cases data <;> rfl
          | _ => rfl

/-- An acknowledged connection is clean exactly when it is opened. -/
theorem connectThrough_acked (acked : isAck env.connect.returned = true)
    (keeps : Keeps World.books (opening world.counter)) (fresh : world.registered = []) :
    Clean env (after (connectThrough env host port refusal opening world)) ↔
      succeeds (opening world.counter (world.request host port)) = true := by
  have kept := keeps (world.request host port)
  rw [connectThrough_eq, if_pos acked]
  change Clean env (after (EStateM.bind (opening world.counter) _ _)) ↔ _
  unfold EStateM.bind
  cases ran : opening world.counter (world.request host port) with
  | ok value next =>
      rw [ran] at kept
      simp only [World.books, after, Prod.mk.injEq] at kept
      obtain ⟨registered, channels, -⟩ := kept
      refine iff_of_true ?_ rfl
      intro connId member
      change connId ∈ next.registered at member
      rw [registered, World.request, fresh, List.nil_append, List.mem_singleton] at member
      subst member
      refine ⟨Finset.notMem_erase _ _, fun _ => .inl ?_⟩
      exact List.mem_append_right _ (List.mem_singleton_self _)
  | error error next =>
      rw [ran] at kept
      simp only [World.books, after, Prod.mk.injEq] at kept
      obtain ⟨registered, channels, -⟩ := kept
      refine iff_of_false ?_ Bool.false_ne_true
      intro clean
      have member : world.counter ∈ next.registered := by
        rw [registered]
        exact List.mem_append_right _ (List.mem_singleton_self _)
      apply (clean _ member).1
      change world.counter ∈ next.channels
      rw [channels]
      exact Finset.mem_insert_self _ _

/-- A refused connection is clean exactly when the app can be told and the server did not
acknowledge it. -/
theorem connectThrough_refused (refused : isAck env.connect.returned = false)
    (fresh : world.registered = []) (silent : world.sent = []) (unrelayed : world.relayed = []) :
    Clean env (after (connectThrough env host port refusal opening world)) ↔
      env.writes refusal = true ∧ env.connect.acknowledged = false := by
  rw [connectThrough_eq, if_neg (Bool.eq_false_iff.mp refused)]
  change Clean env (after (EStateM.bind (writeAll env refusal) _ _)) ↔ _
  unfold EStateM.bind writeAll
  by_cases written : env.writes refusal = true
  · rw [if_pos written]
    constructor
    · intro clean
      refine ⟨written, Bool.eq_false_iff.mpr fun acknowledged => ?_⟩
      have member : world.counter ∈ (world.request host port).registered :=
        List.mem_append_right _ (List.mem_singleton_self _)
      have told := (clean _ member).2 acknowledged
      change world.counter ∈ world.relayed ∨ .close world.counter ∈ world.sent ++ [_] ∨
        .abort world.counter ∈ world.sent ++ [_] at told
      rw [unrelayed, silent] at told
      simp at told
    · rintro ⟨-, unacknowledged⟩ connId member
      change connId ∈ world.registered ++ [world.counter] at member
      rw [fresh, List.nil_append, List.mem_singleton] at member
      subst member
      refine ⟨Finset.notMem_erase _ _, fun acknowledged => ?_⟩
      rw [unacknowledged] at acknowledged
      contradiction
  · rw [if_neg written]
    refine iff_of_false ?_ fun both => written both.1
    intro clean
    have member : world.counter ∈ (world.request host port).registered :=
      List.mem_append_right _ (List.mem_singleton_self _)
    exact (clean _ member).1 (Finset.mem_insert_self _ _)

end ConnectThrough

/-- A handler that finds its target and connects through the tunnel is clean exactly when each of
its later steps allows it. -/
theorem clean_of_target {Target : Type} {env : Environment} {world : World}
    {find : HandlerM Target} {host : Target → String} {port : Target → UInt16} {refusal : Bytes}
    {opening : Target → ConnId → HandlerM Unit} {opens : Bool}
    (silent : Keeps (fun world => (world.books, world.sent)) find)
    (keeps : ∀ target connId, Keeps World.books (opening target connId))
    (opened : ∀ target connId world, succeeds (opening target connId world) = opens)
    (fresh : world.registered = []) (unsent : world.sent = []) (unrelayed : world.relayed = []) :
    Clean env (after ((find >>= fun target =>
      connectThrough env (host target) (port target) refusal (opening target)) world)) ↔
    (succeeds (find world) = true → if isAck env.connect.returned then opens = true else
      env.writes refusal = true ∧ env.connect.acknowledged = false) := by
  have kept := silent world
  change Clean env (after (EStateM.bind find _ world)) ↔ _
  unfold EStateM.bind
  cases ran : find world with
  | error error next =>
      rw [ran] at kept
      simp only [World.books, after, Prod.mk.injEq] at kept
      refine iff_of_true ?_ fun impossible => absurd impossible Bool.false_ne_true
      intro connId member
      change connId ∈ next.registered at member
      rw [kept.1.1, fresh] at member
      contradiction
  | ok target next =>
      rw [ran] at kept
      simp only [World.books, after, Prod.mk.injEq] at kept
      obtain ⟨⟨registered, -, relayed⟩, sent⟩ := kept
      change Clean env (after (connectThrough env _ _ refusal _ next)) ↔ _
      split
      · next acked =>
          rw [connectThrough_acked acked (keeps target _) (registered.trans fresh), opened]
          exact (imp_iff_right rfl).symm
      · next refused =>
          rw [connectThrough_refused (Bool.eq_false_iff.mpr refused) (registered.trans fresh)
            (sent.trans unsent) (relayed.trans unrelayed)]
          exact (imp_iff_right rfl).symm

/-- These handlers serve an accepted connection. -/
inductive Entry where
  | socks5
  | connect (authority : Bytes)
  | plainHttp (method uri version headers : Bytes)
deriving DecidableEq, Repr

/-- Each entry point runs its handler. -/
def Entry.handle (env : Environment) : Entry → HandlerM Unit
  | .socks5 => Socks5.handleSocks5Client env
  | .connect authority => HttpProxy.handleConnect env authority
  | .plainHttp method uri version headers =>
      HttpProxy.handlePlainHttp env method uri version headers

/-- The app's request names a target. -/
def Entry.accepts (env : Environment) (world : World) : Entry → Bool
  | .socks5 => succeeds (Socks5.handshake env world)
  | .connect authority => (HttpProxy.parseAuthority authority).isOk
  | .plainHttp _ uri _ _ => (HttpProxy.parseHttpUri uri).isOk

/-- The step between the acknowledgement and the relay succeeds. -/
def Entry.opens (env : Environment) : Entry → Bool
  | .socks5 => env.writes (Socks5.reply Socks5.socks5RepSuccess)
  | .connect _ => env.writes HttpProxy.established
  | .plainHttp .. => env.posts

/-- This reply tells the app that its target cannot be reached. -/
def Entry.refusal : Entry → Bytes
  | .socks5 => Socks5.reply Socks5.socks5RepGeneralFailure
  | .connect _ | .plainHttp .. => HttpProxy.badGateway

/-- Once the handler has registered, an acknowledged connection is opened, and a refused one can be
reported to the app and was not acknowledged by the server. -/
def Entry.Smooth (entry : Entry) (env : Environment) (world : World) : Prop :=
  entry.accepts env world = true → if isAck env.connect.returned then entry.opens env = true else
    env.writes entry.refusal = true ∧ env.connect.acknowledged = false

theorem succeeds_writeAll (env : Environment) (bytes : Bytes) (world : World) :
    succeeds (writeAll env bytes world) = env.writes bytes := by
  unfold writeAll
  split
  · next written => exact written.symm
  · next failed => exact (Bool.eq_false_iff.mpr failed).symm

theorem succeeds_sendMessage (env : Environment) (message : Message) (world : World) :
    succeeds (sendMessage env message world) = env.posts := by
  unfold sendMessage
  split
  · next posted => exact posted.symm
  · next failed => exact (Bool.eq_false_iff.mpr failed).symm

theorem succeeds_ofExcept {Value : Type} (result : Except String Value) (world : World) :
    succeeds ((MonadExcept.ofExcept result : HandlerM Value) world) = result.isOk := by
  cases result <;> rfl

/-- Every entry point cleans up its connection exactly when its later steps allow it. -/
theorem entry_clean_iff (entry : Entry) (env : Environment) (input : Bytes) (counter : ConnId)
    (channels : Finset ConnId) :
    Clean env (after (entry.handle env (World.start input counter channels))) ↔
      entry.Smooth env (World.start input counter channels) := by
  have writes {bytes : Bytes} : Keeps World.books (writeAll env bytes) := fun world =>
    congrArg Prod.fst (writeAll_keeps env bytes world)
  cases entry with
  | socks5 =>
      exact clean_of_target (Socks5.handshake_keeps env) (fun _ _ => writes)
        (fun _ _ => succeeds_writeAll env _) rfl rfl rfl
  | connect authority =>
      rw [Entry.Smooth, Entry.accepts, ← succeeds_ofExcept]
      exact clean_of_target (Keeps.ofExcept _) (fun _ _ => writes)
        (fun _ _ => succeeds_writeAll env _) rfl rfl rfl
  | plainHttp method uri version headers =>
      rw [Entry.Smooth, Entry.accepts, ← succeeds_ofExcept]
      exact clean_of_target (Keeps.ofExcept _) (fun _ _ => sendMessage_keeps env _)
        (fun _ _ => succeeds_sendMessage env _) rfl rfl rfl

/-- The app closes its socket while the server connects. The success reply cannot be written, so the
handler returns with its connection still registered and its target still connected. -/
theorem failed_reply_leaks : ∃ env world,
    after (Entry.socks5.handle env (World.start [5, 1, 0, 5, 1, 0, 1, 127, 0, 0, 1, 0, 80] 7 ∅)) =
      world ∧ env.connect.acknowledged = true ∧ world.registered = [7] ∧ 7 ∈ world.channels ∧
    world.relayed = [] ∧ ¬ Clean env world := by
  let env : Environment :=
    { connect := ⟨.ok (some (.data 7 [])), true, fun _ => rfl⟩
      writes := fun bytes => bytes = [5, 0]
      posts := true
      reads := []
      upload := .eof }
  refine ⟨env, _, rfl, rfl, rfl, by decide, rfl, fun clean => ?_⟩
  exact (clean 7 (by decide)).1 (by decide)

end Tunnix.Handler
