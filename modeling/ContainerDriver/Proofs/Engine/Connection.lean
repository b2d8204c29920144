import ContainerDriver.Proofs.Command.Growth
import ContainerDriver.Proofs.Engine.Keeping
import ContainerDriver.Proofs.Engine.Secrecy
import ContainerDriver.Proofs.Settings.Mapping

/-! The connection of every process. Whatever is started for a client is started with its binary, its
address and its variables; an operation adds nothing but arguments of its own. -/
namespace ContainerDriver

structure Ask.Serves (c : Client) (parent : Environment) (own : List Text → Prop) (a : Ask) :
    Prop where
  command : ∃ args : List Argument, own (args.map (·.value)) ∧
    a.command = .build c.endpoint c.binary args
  env : a.env = Bridge.childEnv parent a.command

structure World.Serves (c : Client) (own : List Text → Prop) (w w' : World) : Prop where
  parent : w'.parent = w.parent
  grown : ∃ asks, w'.core.asks = w.core.asks ++ asks ∧ ∀ a ∈ asks, a.Serves c w.parent own

namespace World.Serves

variable {c : Client} {own : List Text → Prop} {w w' w'' : World}

theorem idle (core : w'.core = w.core) : Serves c own w w' :=
  ⟨congrArg Core.parent core, [],
    (congrArg Core.asks core).trans (List.append_nil _).symm, fun _ mem => by cases mem⟩

theorem trans (first : Serves c own w w') (later : Serves c own w' w'') : Serves c own w w'' := by
  obtain ⟨parent, asks, grown, serves⟩ := first
  obtain ⟨parent', asks', grown', serves'⟩ := later
  rw [parent] at serves'
  refine ⟨parent'.trans parent, asks ++ asks', ?_, List.forall_mem_append.mpr ⟨serves, serves'⟩⟩
  rw [grown', grown, List.append_assoc]

theorem called {args : List Argument} {input : Option Bytes} {barred : Option Answer}
    (mine : own (args.map (·.value)))
    (core : w'.core = (w.core.call c.verbose (.build c.endpoint c.binary args) input barred).2) :
    Serves c own w w' := by
  unfold Core.call at core
  cases shown : (Command.build c.endpoint c.binary args).unshown? c.verbose with
  | some e =>
    rw [shown] at core
    exact .idle core
  | none =>
    rw [shown] at core
    refine ⟨congrArg Core.parent core, [_], congrArg Core.asks core, fun a mem => ?_⟩
    cases List.mem_singleton.mp mem
    exact ⟨⟨args, mine, rfl⟩, rfl⟩

end World.Serves

def Spawns (c : Client) (own : List Text → Prop) {α : Type} (p : Op α) : Prop :=
  ∀ w, World.Serves c own w ((p.run w).run).2

namespace Spawns

variable {c : Client} {own : List Text → Prop} {α β : Type} {p : Op α} {q : α → Op β}

theorem keeps : Spawns c own p ↔ ∀ w₀, Keeps (World.Serves c own w₀) p :=
  ⟨fun spawns _ w served => served.trans (spawns w), fun keeps w => keeps w w (.idle rfl)⟩

theorem value (a : α) : Spawns c own (pure a) := keeps.mpr fun _ => .value a

theorem failure (f : Fault) : Spawns c own (throw f : Op α) := keeps.mpr fun _ => .failure f

theorem change {f : World → World} (serves : ∀ w, World.Serves c own w (f w)) :
    Spawns c own (modify f : Op PUnit) := serves

theorem emit (e : Event) : Spawns c own (Op.emit e) :=
  .change fun w => .idle (w.recordSilent ⟨rfl, rfl⟩)

theorem step (first : Spawns c own p) (next : ∀ a, Spawns c own (q a)) :
    Spawns c own (p >>= q) :=
  keeps.mpr fun w => .step (keeps.mp first w) fun a => keeps.mp (next a) w

theorem look {q : World → Op β} (next : ∀ w, Spawns c own (q w)) : Spawns c own (get >>= q) :=
  fun w => next w w

theorem caught {handler : Fault → Op α} (first : Spawns c own p)
    (next : ∀ f, Spawns c own (handler f)) : Spawns c own (tryCatch p handler) :=
  keeps.mpr fun w => .caught (keeps.mp first w) fun f => keeps.mp (next f) w

theorem onError {handler : Op Unit} (first : Spawns c own p) (handled : Spawns c own handler) :
    Spawns c own (Op.onError p handler) :=
  .caught first fun f => by
    cases f with
    | error e => exact .step handled fun _ => .failure _
    | _ => exact .failure _

theorem unmapped {g : α → β} (mapped : Spawns c own (g <$> p)) : Spawns c own p := by
  intro w
  have served := mapped w
  rwa [Op.mapRan] at served

theorem check {bad : Prop} [Decidable bad] {f : Fault} (rest : Spawns c own p) :
    Spawns c own (if bad then throw f >>= fun (_ : Unit) => p else p) := by
  split
  · exact .step (.failure f) fun _ => rest
  · exact rest

theorem command {args : List Argument} {input : Option Bytes} {r : World → Except Fault α}
    (barred : World → Option Answer) (mine : own (args.map (·.value)))
    (ends : ∀ w : World, Ends p w (r w)
      (w.core.call c.verbose (.build c.endpoint c.binary args) input (barred w)).2) :
    Spawns c own p := by
  intro w
  obtain ⟨w', ran, core⟩ := ends w
  rw [ran]
  exact .called mine core

end Spawns

namespace Client

variable {c : Client} {own : List Text → Prop} {log : Option SinkId} {α : Type}

theorem sinkOrSpawns (log : Option SinkId) (context : List (String × Value)) :
    Spawns c own (Op.sinkOr log context) := by
  cases log with
  | some id => exact .value id
  | none => exact fun w => .idle rfl

theorem announceHostSpawns : Spawns c own c.announceHost := by
  unfold announceHost
  split
  · exact .emit _
  · exact .value _

theorem checkOpenSpawns : Spawns c own checkOpen := .look fun w => by
  split
  · exact .failure _
  · exact .value _

theorem closeSpawns : Spawns c own close :=
  .change fun w => ⟨rfl, [], (List.append_nil _).symm, fun _ mem => by cases mem⟩

theorem givenSpawns {args : ArgumentList} {q : Command → Op α}
    (next : Spawns c own (q (.build c.endpoint c.binary args.toList))) :
    Spawns c own (c.command args >>= q) := by
  simp only [command, bind_assoc, pure_bind]
  exact .step announceHostSpawns fun _ => next

theorem itemsSpawns {items : List Item} {q : Command → Op α}
    (next : ∀ args, items.mapM Item.argument? = some args →
      Spawns c own (q (.build c.endpoint c.binary args))) :
    Spawns c own (c.commandOf items >>= q) := by
  simp only [commandOf, bind_assoc]
  refine .step announceHostSpawns fun _ => ?_
  unfold Command.ofItems?
  cases formed : items.mapM Item.argument? with
  | none => exact .failure _
  | some args => exact next args formed

section

variable {args : List Argument} (mine : own (args.map (·.value)))
include mine

theorem runSpawns (input : Option Bytes) (output : Output) (log : Option SinkId) :
    Spawns c own (Bridge.run c.verbose (.build c.endpoint c.binary args) input output log) :=
  .command (fun _ => none) mine fun _ => Bridge.runEnds _ _ input output log rfl

theorem collectSpawns (input : Option Bytes) (log : Option SinkId) :
    Spawns c own (Bridge.capture c.verbose (.build c.endpoint c.binary args) input log) :=
  .unmapped (.command (fun _ => none) mine fun _ => Bridge.collectEnds _ _ input log rfl)

theorem startSpawns (interactive : Bool) (stdout : Stream) (log : Option SinkId) :
    Spawns c own
      (Bridge.start c.verbose (.build c.endpoint c.binary args) interactive stdout log) :=
  .command (Bridge.startBarred? · interactive stdout) mine fun _ =>
    Bridge.startEnds _ _ interactive stdout log rfl

end

section

variable {args : List Text} (mine : own args)
include mine

theorem listed : own ((ArgumentList.of args).toList.map (·.value)) := by
  rwa [ArgumentList.ofValues]

theorem captureArgsSpawns : Spawns c own (c.captureArgs args log) :=
  .step checkOpenSpawns fun _ => givenSpawns <|
    .step (collectSpawns (listed mine) none log) fun _ => .value _

theorem runArgsSpawns : Spawns c own (c.runArgs args log) :=
  .step checkOpenSpawns fun _ => givenSpawns (runSpawns (listed mine) none .standard log)

theorem runLoggedSpawns (context : List (String × Value)) :
    Spawns c own (c.runLogged args context log) :=
  .step checkOpenSpawns fun _ => .step (sinkOrSpawns log context) fun id =>
    givenSpawns (runSpawns (listed mine) none (.sink id) (some id))

end

theorem createSpawns {image : Text} {args : List Text} (mine : own args) :
    Spawns c own (c.create image args log) := by
  refine .step (captureArgsSpawns mine) fun result => ?_
  by_cases refused : result.ok = false ∨ result.text = ""
  · rw [if_pos refused]
    exact .failure _
  · rw [if_neg refused, Client.bindNamed image (mt Text.ofStringInj.mp (not_or.mp refused).2)]
    exact .step (.value _) fun _ => .step (.emit _) fun _ => .value _

theorem getFileSpawns {container path : Text} (mine : own ["cp", place container path, "-"]) :
    Spawns c own (c.getFile container path log) := by
  refine givenSpawns (.step (.step (collectSpawns (listed mine) none log) fun _ => .value _)
    fun result => .check ?_)
  cases Archive.decode result.stdout with
  | ok content => exact .value content
  | error fault => cases fault <;> exact .failure _

theorem putFileSpawns {container directory : Text} (file : Text) (content : Bytes)
    (mode : Option Int) (mine : own ["cp", "-", place container directory]) :
    Spawns c own (c.putFile container directory file content log mode) := by
  refine .look fun w => ?_
  dsimp only
  cases Archive.encode { name := file, size := content.length, mode } content w.now with
  | error f => exact .failure _
  | ok archive =>
    refine givenSpawns (.step (runSpawns (listed mine) (some archive) .standard log) fun code => ?_)
    exact .check (.step (.emit _) fun _ => .value code)

theorem injectLineSpawns {container directory file path : Text} (line : Bytes)
    (joined : directory ++ "/" ++ file = path) (retrieved : own ["cp", place container path, "-"])
    (sent : own ["cp", "-", place container directory]) :
    Spawns c own (c.injectLine container directory file line log) := by
  subst joined
  exact .step (getFileSpawns retrieved) fun _ =>
    .step (putFileSpawns _ _ _ sent) fun _ => .value ()

theorem discardSpawns {handle : Handle} (mine : own ["rm", "-f", handle.id]) :
    Spawns c own (c.discard handle log) := by
  refine .step (.emit _) fun _ => .caught (givenSpawns ?_) fun f => ?_
  · exact .step (runSpawns (listed mine) none .standard log) fun _ => .value ()
  · cases f with
    | error e => exact .emit _
    | _ => exact .failure _

theorem connectSpawns (connector : Connector) (pid : Nat) : Spawns c own (connector.connect pid) := by
  have connected (w : World) : World.Serves c own w (w.record (.connected pid)) := by
    refine ⟨rfl, [], ?_, fun _ mem => by cases mem⟩
    simp [World.core, World.record, Entry.ask?]
  refine .step (.change connected) fun _ => ?_
  cases connector with
  | accepts => exact .value ()
  | closes => exact closeSpawns
  | _ => exact .failure _

end Client

namespace Step

def remotingArgs (id : Text) : List (List Text) :=
  [["cp", "-", Client.place id Agent.root], ["start", "--interactive", "--attach", id],
   ["rm", "-f", id]]

def buildArgs (id : Text) : List (List Text) :=
  [["cp", Client.place id "/etc/group", "-"], ["cp", Client.place id "/etc/passwd", "-"],
   ["cp", "-", Client.place id "/etc"], ["cp", "-", Client.place id "/"], ["start", id],
   ["rm", "-f", id]]

def sideArgs (id : Text) : List (List Text) := [["start", id], ["rm", "-f", id]]

/-- The arguments of each operation, behind binary and address. A launch is for a container that the
engine names. -/
def Own (args : List Text) : Step → Prop
  | createVolume => args = (["volume", "create"] : List Text)
  | hasVolume name => args = (["volume", "inspect", "-f", Client.fieldOf "Name", name] : List Text)
  | hasContainer id => args = (["inspect", "-f", Client.fieldOf "Id", id] : List Text)
  | imageExists image => args = (["inspect", "-f", Client.fieldOf "Id", image] : List Text)
  | version => args = (["version", "-f", Client.fieldOf "Server.Version"] : List Text)
  | pull image => args = (["pull", image] : List Text)
  | buildDockerfile path tag fresh =>
    args = (["build", "--pull=" ++ (if fresh then "true" else "false"), "-t", tag, path] : List Text)
  | remove name => args = (["rm", "-f", name.id] : List Text)
  | remoting image workdir _ _ =>
    args = Client.remotingArgs image workdir ∨ ∃ id, args ∈ remotingArgs id
  | build image name =>
    (∃ host : Handle, host.id = name.id ∧ args = Client.buildArgs image host) ∨
      ∃ id, args ∈ buildArgs id
  | side image name =>
    (∃ host : Handle, host.id = name.id ∧ args = Client.sideArgs image host) ∨
      ∃ id, args ∈ sideArgs id
  | exec id cmd workdir env _ =>
    ∃ given, cmd.mapM Item.argument? = some given ∧ env.all (·.2.display?.isSome) = true ∧
      args = Client.execArgs id workdir env (given.map (·.value))
  | getFile id path => args = (["cp", Client.place id path, "-"] : List Text)
  | putFile id directory _ _ _ => args = (["cp", "-", Client.place id directory] : List Text)
  | run items _ _ | capture items _ | start items _ _ =>
    ∃ given, items.mapM Item.argument? = some given ∧ args = given.map (·.value)
  | close | enclose | sinkWrite _ _ | sinkFlush _ => False

variable {c : Client} {log : Option SinkId} {α : Type}

theorem returnSpawns {own : List Text → Prop} {p : Op α} (give : α → Outcome)
    (spawns : Spawns c own p) : Spawns c own (do return give (← p)) :=
  .step spawns fun _ => .value _

theorem withHandleSpawns {own : List Text → Prop} {name : HandleName} {q : Handle → Op Outcome}
    (next : ∀ handle, handle.id = name.id → Spawns c own (q handle)) :
    Spawns c own (withHandle name q) := by
  unfold withHandle Handle.of?
  by_cases named : name.id ≠ ""
  · rw [dif_pos named]
    exact next _ rfl
  · rw [dif_neg named]
    exact .failure _

theorem remotingSpawns (image workdir : Text) (artifact : Bytes) (connector : Connector) :
    Spawns c (Own · (remoting image workdir artifact connector))
      (c.launchRemoting image workdir artifact connector log) := by
  refine .step (Client.createSpawns (.inl rfl)) fun handle => Client.givenSpawns ?_
  have mine {args : List Text} (one : args ∈ remotingArgs handle.id) :
      Own args (remoting image workdir artifact connector) := .inr ⟨handle.id, one⟩
  refine .step (.onError ?_ (Client.discardSpawns (mine (by simp [remotingArgs])))) fun pid => ?_
  · exact .step (Client.putFileSpawns _ _ _ (mine (by simp [remotingArgs]))) fun _ =>
      Client.startSpawns (Client.listed (mine (by simp [remotingArgs]))) true .discard log
  · exact .step (.emit _) fun _ => .step (Client.connectSpawns _ _) fun _ => .value _

theorem buildSpawns (image : Text) (name : HandleName) {host : Handle} (same : host.id = name.id) :
    Spawns c (Own · (build image name)) (c.launchBuild image host log) := by
  refine .step (Client.createSpawns (.inl ⟨host, same, rfl⟩)) fun handle => ?_
  have mine {args : List Text} (one : args ∈ buildArgs handle.id) :
      Own args (build image name) := .inr ⟨handle.id, one⟩
  refine .step (.onError ?_ (Client.discardSpawns (mine (by simp [buildArgs])))) fun _ => ?_
  · have group : ("/etc" : Text) ++ "/" ++ "group" = "/etc/group" := by decide
    have passwd : ("/etc" : Text) ++ "/" ++ "passwd" = "/etc/passwd" := by decide
    have sent : Own ["cp", "-", Client.place handle.id "/etc"] (build image name) :=
      mine (by simp [buildArgs])
    refine .step (Client.injectLineSpawns _ group (mine (by simp [buildArgs])) sent) fun _ => ?_
    refine .step (Client.injectLineSpawns _ passwd (mine (by simp [buildArgs])) sent) fun _ => ?_
    refine .step ?_ fun _ => ?_
    · exact .step (Client.putFileSpawns _ _ _ (mine (by simp [buildArgs]))) fun _ => .value ()
    · exact .step (Client.runArgsSpawns (mine (by simp [buildArgs]))) fun _ => .check (.value ())
  · exact .step (.emit _) fun _ => .value _

theorem sideSpawns (image : Text) (name : HandleName) {host : Handle} (same : host.id = name.id) :
    Spawns c (Own · (side image name)) (c.launchSide image host log) := by
  refine .step (Client.createSpawns (.inl ⟨host, same, rfl⟩)) fun handle => Client.givenSpawns ?_
  have mine {args : List Text} (one : args ∈ sideArgs handle.id) :
      Own args (side image name) := .inr ⟨handle.id, one⟩
  refine .step (.onError ?_ (Client.discardSpawns (mine (by simp [sideArgs])))) fun pid => ?_
  · exact Client.startSpawns (Client.listed (mine (by simp [sideArgs]))) false .discard log
  · exact .step (.emit _) fun _ => .value _

theorem execSpawns (id : Text) (cmd : List Item) (workdir : Option Text)
    (env : List (Text × Value)) (stdout : Stream) :
    Spawns c (Own · (exec id cmd workdir env stdout)) (c.exec id cmd workdir env stdout log) := by
  refine .step Client.checkOpenSpawns fun _ => ?_
  have part : (Client.execFront id workdir env).2 = !env.all (·.2.display?.isSome) :=
    (Client.assignmentsRead env).1
  change Spawns c _ (if (Client.execFront id workdir env).2 then _ else _)
  rw [part]
  cases known : env.all (·.2.display?.isSome) with
  | false => exact fun _ => .idle rfl
  | true =>
    change Spawns c _ (if (readUntil Item.argument? cmd).2 then _ else _)
    have whole := mapMReadUntil Item.argument? cmd
    cases broken : (readUntil Item.argument? cmd).2 with
    | true => exact fun _ => .idle rfl
    | false =>
      rw [broken] at whole
      refine Client.givenSpawns (Client.startSpawns ⟨_, whole, known, ?_⟩ false stdout log)
      exact Client.execFrontValues id workdir known _

theorem performSpawns (c : Client) (log : Option SinkId) (s : Step) :
    Spawns c (Own · s) (s.perform c log) := by
  cases s with
  | createVolume =>
    exact returnSpawns _ (.step (Client.captureArgsSpawns rfl) fun _ => .check (.value _))
  | hasVolume name =>
    refine returnSpawns _ ?_
    unfold Client.hasVolume
    split
    · exact .value false
    · exact .step (Client.captureArgsSpawns rfl) fun _ => .value _
  | hasContainer id =>
    refine returnSpawns _ ?_
    unfold Client.hasContainer
    split
    · exact .value false
    · exact .step (Client.captureArgsSpawns rfl) fun _ => .value _
  | imageExists image =>
    exact returnSpawns _ (.step (Client.captureArgsSpawns rfl) fun _ => .value _)
  | version =>
    exact returnSpawns _ (.step (Client.captureArgsSpawns rfl) fun _ => .check (.value _))
  | pull image =>
    refine returnSpawns (fun _ => .nothing) ?_
    refine .step (Client.runLoggedSpawns ?_ _) fun _ => .check (.emit _)
    exact rfl
  | buildDockerfile path tag fresh =>
    refine returnSpawns _ (Client.runLoggedSpawns ?_ _)
    exact rfl
  | remove name =>
    refine withHandleSpawns fun handle same => returnSpawns _ ?_
    refine .step (Client.runArgsSpawns (congrArg (["rm", "-f", ·] : Text → List Text) same)) fun code => ?_
    split
    · exact .step (.emit _) fun _ => .value _
    · exact .value _
  | remoting image workdir artifact connector =>
    exact returnSpawns _ (remotingSpawns image workdir artifact connector)
  | build image name =>
    exact withHandleSpawns fun host same => returnSpawns _ (buildSpawns image name same)
  | side image name =>
    exact withHandleSpawns fun host same => .step (sideSpawns image name same) fun _ => .value _
  | exec id cmd workdir env stdout => exact returnSpawns _ (execSpawns id cmd workdir env stdout)
  | close => exact .step Client.closeSpawns fun _ => .value _
  | enclose => exact .step Client.closeSpawns fun _ => .value _
  | getFile id path => exact returnSpawns _ (Client.getFileSpawns rfl)
  | putFile id directory name content mode =>
    exact returnSpawns _ (Client.putFileSpawns name content mode rfl)
  | run items input stdout =>
    refine Client.itemsSpawns fun args formed => ?_
    exact .step (Client.runSpawns ⟨args, formed, rfl⟩ input _ log) fun _ => .value _
  | capture items input =>
    refine Client.itemsSpawns fun args formed => ?_
    exact .step (Client.collectSpawns ⟨args, formed, rfl⟩ input log) fun _ => .value _
  | start items interactive stdout =>
    refine Client.itemsSpawns fun args formed => ?_
    exact .step (Client.startSpawns ⟨args, formed, rfl⟩ interactive stdout log) fun _ => .value _
  | sinkWrite sink data =>
    exact .step (.change fun w => .idle (w.writeSilent sink data)) fun _ => .value _
  | sinkFlush sink =>
    exact .step (.change fun w => .idle (w.flushSilent sink)) fun _ => .value _

end Step
namespace World

variable {c : Client} {w : World}

theorem stepServes (c : Client) (log : Option SinkId) (s : Step) (w : World) :
    Serves c (s.Own ·) w (w.step c log s).2 := by
  have served := s.performSpawns c log w
  cases ran : ((s.perform c log).run w).run with
  | mk r after =>
    rw [ran] at served
    rw [(stepRan ran).2]
    exact served.trans (.idle after.settleSilent)

theorem sessionServes (c : Client) (steps : List (Option SinkId × Step)) (w : World) :
    ∃ news : List (List Ask), (w.session c steps).2.core.asks = w.core.asks ++ news.flatten ∧
      List.Forall₂ (fun step asks => ∀ a ∈ asks, a.Serves c w.parent (step.2.Own ·)) steps news := by
  induction steps generalizing w with
  | nil => exact ⟨[], (List.append_nil _).symm, .nil⟩
  | cons step rest ih =>
    obtain ⟨log, s⟩ := step
    obtain ⟨parent, asks, grown, serves⟩ := stepServes c log s w
    obtain ⟨news, later, rest⟩ := ih (w.step c log s).2
    rw [parent] at rest
    refine ⟨asks :: news, ?_, .cons serves rest⟩
    rw [session, List.flatten_cons, ← List.append_assoc, ← grown]
    exact later

end World

theorem Ask.Serves.connected {c : Client} {parent : Environment} {own : List Text → Prop} {a : Ask}
    (serves : a.Serves c parent own) (distinct : Table.Distinct c.endpoint.env) :
    ∃ args, own args ∧
      a.command.argv = [c.binary] ++ c.endpoint.flags ++ args ∧
      ∀ k, Table.get? k a.env = (Table.get? k c.endpoint.env).or (Table.get? k parent) := by
  obtain ⟨⟨args, mine, built⟩, env⟩ := serves
  refine ⟨args.map (·.value), mine, ?_, fun k => ?_⟩
  · rw [built]
    exact (Command.buildShows c.endpoint c.binary args).1
  · rw [env, built, Bridge.childEnv, Table.overlayMerge, Command.build, Table.getMerge distinct]
    cases Table.get? k c.endpoint.env <;> rfl

/-- In every session each process is started with the binary and the address of the client and with
the arguments of its step, and sees the variables of the endpoint over those of the parent; and the
variables of an endpoint are what the settings say. -/
theorem sessionConnected (c : Client) (distinct : Table.Distinct c.endpoint.env)
    (steps : List (Option SinkId × Step)) (w : World) :
    (∃ news : List (List Ask), (w.session c steps).2.core.asks = w.core.asks ++ news.flatten ∧
      List.Forall₂ (fun step asks => ∀ a ∈ asks, ∃ args, step.2.Own args ∧
        a.command.argv = [c.binary] ++ c.endpoint.flags ++ args ∧
        ∀ k, Table.get? k a.env = (Table.get? k c.endpoint.env).or (Table.get? k w.parent))
        steps news) ∧
    ∀ (s : Settings) (k : String), Table.get? (k : Text) s.endpoint.env =
      (if k = "DOCKER_CERT_PATH" then
        (s.engine.certPath.filter (· ≠ "")).or (Table.get? k s.engine.env)
      else if k = "DOCKER_TLS_VERIFY" ∧ s.engine.tlsVerify = true then some "1"
      else Table.get? k s.engine.env).map Text.ofString := by
  obtain ⟨news, grown, serves⟩ := World.sessionServes c steps w
  refine ⟨⟨news, grown, serves.imp fun step asks each a mem => ?_⟩, Settings.endpointGet⟩
  exact (each a mem).connected distinct

def secured : Client :=
  { endpoint := Settings.endpoint { engine := { uri := some "tcp://engine", tlsVerify := true } } }

def watched : World := { parent := [("PATH", "/bin"), ("DOCKER_TLS_VERIFY", "")] }

theorem sessionConnectedSecurely : Table.Distinct secured.endpoint.env ∧
    ∃ a, (watched.session secured [(none, .version)]).2.core.asks = [a] ∧
      a.command.argv =
        ["docker", "-H", "tcp://engine", "version", "-f", Client.fieldOf "Server.Version"] ∧
      Table.get? ("DOCKER_TLS_VERIFY" : Text) a.env = some "1" ∧
      Table.get? ("PATH" : Text) a.env = some "/bin" := by
  have distinct : Table.Distinct secured.endpoint.env := List.nodup_singleton _
  obtain ⟨⟨news, grown, serves⟩, -⟩ :=
    sessionConnected secured distinct [(none, .version)] watched
  obtain ⟨asks, _, each, rest, rfl⟩ := List.forall₂_cons_left_iff.mp serves
  cases List.forall₂_nil_left_iff.mp rest
  have all : (watched.session secured [(none, .version)]).2.core.asks = asks := by
    rw [grown]
    exact List.append_nil _
  have one : asks.length = 1 := by
    rw [← all]
    decide +kernel
  obtain ⟨a, rfl⟩ := List.length_eq_one_iff.mp one
  obtain ⟨args, rfl, argv, env⟩ := each a (List.mem_singleton_self a)
  exact ⟨distinct, a, all, argv, env _, env _⟩

end ContainerDriver
