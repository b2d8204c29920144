import ContainerDriver.Proofs.Engine.Launches

/-! What a launch does to the core: creation, the stages behind it with the removal of a container
that they fail on, and the process handed over at the end. -/
namespace ContainerDriver

inductive Launch where
  | remoting (image workdir : Text) (artifact : Bytes) (connector : Connector)
  | build (image : Text) (remoting : Handle)
  | side (image : Text) (remoting : Handle)

namespace Launch

def image : Launch → Text
  | remoting image _ _ _ => image
  | build image _ => image
  | side image _ => image

def op (c : Client) (log : Option SinkId) : Launch → Op Handle
  | remoting image workdir artifact connector =>
    c.launchRemoting image workdir artifact connector log
  | build image host => c.launchBuild image host log
  | side image host => Prod.fst <$> c.launchSide image host log

def create : Launch → Stage
  | remoting image workdir _ _ => .create image (Client.remotingArgs image workdir)
  | build image host => .create image (Client.buildArgs image host)
  | side image host => .create image (Client.sideArgs image host)

def provision (c : Client) (id : Text) : Launch → List Stage
  | remoting _ _ artifact _ =>
    [.send id Agent.root ⟨Agent.artifact, fun _ => artifact, none⟩,
     .detach ["start", "--interactive", "--attach", id]]
  | build _ _ =>
    [.retrieve id "/etc/group", .send id "/etc" (Client.lineParcel "group" Agent.groupLine),
     .retrieve id "/etc/passwd", .send id "/etc" (Client.lineParcel "passwd" Agent.userLine),
     .send id "/" c.trampolineParcel, .start id]
  | side _ _ => [.detach ["start", id]]

def connector? : Launch → Option Connector
  | remoting _ _ _ connector => some connector
  | _ => none

def handOver (l : Launch) (id : Text) (k : Core) : Except Fault Text × Core :=
  match l.connector? with
  | none => (.ok id, k)
  | some .accepts => (.ok id, k.connect (k.nextPid - 1))
  | some (.fails text) => (.error (.error (.general text)), k.connect (k.nextPid - 1))
  | some .refuses => (.error .connectorRefused, k.connect (k.nextPid - 1))
  | some .closes => (.ok id, { k.connect (k.nextPid - 1) with closed := true })

def overruled (e : Error) : Except Fault Unit → Fault
  | .ok _ => .error e
  | .error f => f

def discarding (c : Client) (id : Text) :
    Except Fault Bytes × Core → Except Fault Bytes × Core
  | (.error (.error e), k) =>
    (.error (overruled e (Client.pardoned (k.call c.verbose (c.removal id) none).1)),
      (k.call c.verbose (c.removal id) none).2)
  | other => other

def settle (c : Client) (l : Launch) (id : Text) (out : Bytes) (k : Core) :
    Except Fault Text × Core :=
  match discarding c id (c.course (l.provision c id) out k) with
  | (.error f, k) => (.error f, k)
  | (.ok _, k) => l.handOver id k

def play (c : Client) (l : Launch) (k : Core) : Except Fault Text × Core :=
  match c.course [l.create] [] k with
  | (.error f, k) => (.error f, k)
  | (.ok out, k) => l.settle c (Execution.mk 0 out).text out k

def container (c : Client) (l : Launch) (k : Core) : String :=
  match (c.attend l.create none k).1 with
  | .ok out => (Execution.mk 0 out).text
  | .error _ => ""

def plan (c : Client) (l : Launch) (k : Core) : List Stage :=
  l.create :: l.provision c (l.container c k)

variable {c : Client} {l : Launch} {log : Option SinkId} {w : World}

def Shows (l : Launch) (id : Text) (_ : Core) (h : Handle) : Prop := h.image = l.image ∧ h.id = id

theorem untypedEnds {α : Type} {p : Op α} {handler : Op Unit} {f : Fault} {k : Core}
    (untyped : ∀ e, f ≠ .error e) (ended : Ends p w (.error f) k) :
    Ends (Op.onError p handler) w (.error f) k := by
  refine .caught ended fun w core => ?_
  cases f with
  | error e => exact absurd rfl (untyped e)
  | _ =>
    exact .failure _ core

theorem discardingFollows {α : Type} {p : Op α} (c : Client) (log : Option SinkId) (handle : Handle)
    {shows : Bytes → Core → α → Prop} {o : Except Fault Bytes × Core} (ran : Follows p w shows o) :
    Follows (Op.onError p (c.discard handle log)) w shows (discarding c handle.id o) := by
  cases o with
  | mk r k =>
    cases r with
    | ok out =>
      obtain ⟨a, ended, shown⟩ := ran
      exact ⟨a, .uncaught ended, shown⟩
    | error f =>
      cases f with
      | error e =>
        refine Ends.caught (p := p) ran fun w' core => ?_
        have discarded := c.discardEnds handle log core
        cases pardoned : Client.pardoned (k.call c.verbose (c.removal handle.id) none).1 with
        | error f =>
          rw [pardoned] at discarded
          exact .stop discarded
        | ok u =>
          rw [pardoned] at discarded
          exact .step discarded fun _ core => .failure _ core
      | _ => exact untypedEnds (by simp) ran

theorem createFollows {q : Handle → Op Handle} {image : Text} {args : List Text}
    (stage : l.create = .create image args)
    (next : ∀ handle out w', handle.image = image → w'.closed = false →
      Follows (q handle) w' l.Shows (l.settle c handle.id out w'.core))
    (opened : w.closed = false) :
    Follows (c.create image args log >>= q) w l.Shows (l.play c w.core) := by
  have created := c.createPerforms image args log [] w opened
  have frame := (c.courseFrame [l.create] [] w.core).1
  rw [← stage] at created
  unfold play
  cases course : c.course [l.create] [] w.core with
  | mk r k =>
    rw [course] at created frame
    cases r with
    | error f => exact Ends.stop created
    | ok out =>
      obtain ⟨handle, ⟨w', ran, rfl⟩, named, id⟩ := created
      dsimp only
      rw [← id]
      exact .after ran (next handle out w' named (frame.trans opened))

theorem createWritten (l : Launch) (now : Int) (prev : Bytes) :
    l.create.input now prev = .ok none := by
  cases l <;> rfl

theorem playCreated {k k' : Core} {out : Bytes}
    (good : c.attend l.create none k = (.ok out, k')) :
    l.play c k = l.settle c (l.container c k) out k' ∧
    c.course (l.plan c k) [] k = c.course (l.provision c (l.container c k)) out k' := by
  have id : l.container c k = (Execution.mk 0 out).text := by rw [container, good]
  constructor
  · rw [play, c.courseOne, l.createWritten]
    dsimp only
    rw [good, id]
  · simp only [plan, Client.course, l.createWritten, good]

theorem playRefused {k k' : Core} {f : Fault}
    (bad : c.attend l.create none k = (.error f, k')) :
    l.play c k = (.error f, k') ∧ c.course (l.plan c k) [] k = (.error f, k') := by
  constructor
  · rw [play, c.courseOne, l.createWritten]
    dsimp only
    rw [bad]
  · simp only [plan, Client.course, l.createWritten, bad]

theorem settleTyped {id : Text} {out : Bytes} {k k' : Core} {e : Error}
    (course : c.course (l.provision c id) out k = (.error (.error e), k')) :
    l.settle c id out k =
      (.error (overruled e (Client.pardoned (k'.call c.verbose (c.removal id) none).1)),
        (k'.call c.verbose (c.removal id) none).2) := by
  rw [settle, course]
  rfl

theorem settleUntyped {id : Text} {out : Bytes} {k k' : Core} {f : Fault}
    (untyped : ∀ e, f ≠ .error e)
    (course : c.course (l.provision c id) out k = (.error f, k')) :
    l.settle c id out k = (.error f, k') := by
  rw [settle, course]
  cases f with
  | error e => exact absurd rfl (untyped e)
  | _ => rfl

theorem settleDone {id : Text} {out out' : Bytes} {k k' : Core}
    (course : c.course (l.provision c id) out k = (.ok out', k')) :
    l.settle c id out k = l.handOver id k' := by
  rw [settle, course]
  rfl

theorem settleFollows {α : Type} {body : Op α} {rest : α → Op Handle} {handle : Handle}
    {out : Bytes} {shows : Bytes → Core → α → Prop}
    (staged : Performs c body (l.provision c handle.id) out shows)
    (next : ∀ a out w', shows out w'.core a →
      Follows (rest a) w' l.Shows (l.handOver handle.id w'.core)) (opened : w.closed = false) :
    Follows (Op.onError body (c.discard handle log) >>= rest) w l.Shows
      (l.settle c handle.id out w.core) := by
  have guarded := discardingFollows c log handle (staged w opened)
  unfold settle
  cases done : discarding c handle.id (c.course (l.provision c handle.id) out w.core) with
  | mk r k =>
    rw [done] at guarded
    cases r with
    | error f => exact Ends.stop guarded
    | ok out =>
      obtain ⟨a, ⟨w', ran, rfl⟩, shown⟩ := guarded
      exact .after ran (next a out w' shown)

theorem connectFollows {connector : Connector} {pid : Nat} {handle : Handle} {k : Core}
    (mine : l.connector? = some connector) (image : handle.image = l.image)
    (last : k.nextPid = pid + 1) (core : w.core = k) :
    Follows (do connector.connect pid; return handle) w l.Shows (l.handOver handle.id k) := by
  have before : k.nextPid - 1 = pid := by omega
  have recorded : (w.record (.connected pid)).core = k.connect pid := by
    simp [← core, World.core, World.record, Core.connect, Entry.ask?, Entry.connection?]
  have accepted (k' : Core) (ended : Ends (connector.connect pid) w (.ok ()) k') :
      Follows (do connector.connect pid; return handle) w l.Shows (.ok handle.id, k') := by
    exact .step ended fun _ core => ⟨handle, .value _ core, image, rfl⟩
  unfold handOver
  rw [mine, before]
  cases connector with
  | accepts =>
    exact accepted _ (.step (.change recorded) fun _ core => .value () core)
  | fails text =>
    exact Ends.stop (.step (.change recorded) fun _ core => .failure _ core)
  | refuses =>
    exact Ends.stop (.step (.change recorded) fun _ core => .failure _ core)
  | closes =>
    refine accepted _ (.step (.change recorded) fun w' core => .change ?_)
    rw [← core]
    rfl

theorem buildPerforms (image : Text) (host : Handle) (id : Text) (out : Bytes) :
    Performs c (do
      c.injectLine id "/etc" "group" Agent.groupLine log
      c.injectLine id "/etc" "passwd" Agent.userLine log
      c.injectTrampoline id log
      let code ← c.runArgs ["start", id] log
      if code ≠ 0 then Op.fail (.exited .startContainer code id))
      ((build image host).provision c id) out (fun _ _ _ => True) := by
  have group := c.injectLinePerforms id "/etc" "group" Agent.groupLine log out
  have passwd := c.injectLinePerforms id "/etc" "passwd" Agent.userLine log
  rw [show ("/etc" : Text) ++ "/" ++ "group" = "/etc/group" by decide] at group
  rw [show ("/etc" : Text) ++ "/" ++ "passwd" = "/etc/passwd" by decide] at passwd
  refine .bind group fun _ out k _ => ?_
  refine .bind (passwd out) fun _ out k _ => ?_
  refine .bind (c.injectTrampolinePerforms id log out) fun _ out k _ => ?_
  exact c.startWaitedPerforms id log out

theorem remotingPerforms (image workdir : Text) (artifact : Bytes) (connector : Connector)
    (id : Text) (out : Bytes) :
    Performs c (do
      let _ ← c.putFile id Agent.root Agent.artifact artifact log
      Bridge.start c.verbose (c.commandFor ["start", "--interactive", "--attach", id]) true .discard
        log)
      ((remoting image workdir artifact connector).provision c id) out
      (fun _ k pid => k.nextPid = pid + 1) := by
  refine .bind (c.putFilePerforms id Agent.root ⟨Agent.artifact, fun _ => artifact, none⟩ out log)
    fun _ out k _ => ?_
  exact c.startPerforms _ true log out

theorem opFollows (c : Client) (log : Option SinkId) (l : Launch) (opened : w.closed = false) :
    Follows (l.op c log) w l.Shows (l.play c w.core) := by
  cases l with
  | build image host =>
    refine createFollows rfl (fun handle out w' named opened => ?_) opened
    refine settleFollows (buildPerforms image host handle.id out) (fun _ out w' _ => ?_) opened
    exact .step (Op.emitEnds _ rfl) fun _ core => ⟨handle, .value _ core, named, rfl⟩
  | side image host =>
    simp only [op, Client.launchSide, map_bind, map_pure]
    refine createFollows rfl (fun handle out w' named opened => ?_) opened
    refine .step (c.commandEnds _ rfl) fun w core => ?_
    have still : w.closed = false := (congrArg Core.closed core).trans opened
    rw [← core]
    refine settleFollows (c.startPerforms ["start", handle.id] false log out)
      (fun pid out w' _ => ?_) still
    exact .step (Op.emitEnds _ rfl) fun _ core => ⟨handle, .value _ core, named, rfl⟩
  | remoting image workdir artifact connector =>
    refine createFollows rfl (fun handle out w' named opened => ?_) opened
    refine .step (c.commandEnds _ rfl) fun w core => ?_
    have still : w.closed = false := (congrArg Core.closed core).trans opened
    rw [← core]
    refine settleFollows (remotingPerforms image workdir artifact connector handle.id out)
      (fun pid out w' last => ?_) still
    refine .step (Op.emitEnds _ rfl) fun w core => ?_
    rw [← core] at last ⊢
    exact connectFollows rfl named last rfl

end Launch
end ContainerDriver
