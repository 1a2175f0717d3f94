import MediaServo.Host.ConfigJobs

/-! One run of the core or of a start-up pass, beside the process registry that it works on. -/

namespace MediaServo.Host

/-- The phases whose commands may change the registry: stop and delete of one app, the wait for a
clean registry, and the apply. -/
def Phase.commands : Phase → Bool
  | .tearing _ (_ :: _) | .verifying _ | .applying _ => true
  | _ => false

def Phase.lists : Phase → Bool
  | .listing _ | .verifying _ | .reconciling _ => true
  | _ => false

/-- What a run meets: the answers of a phase, the error of its list command if there is one, and
what the registry becomes under the commands of a phase, successful or not. A run comes to a phase
at most once. -/
structure Surroundings where
  reply : Phase → Reply
  listError : Phase → Option String
  after : Phase → List OxProcess → List OxProcess

structure Scene where
  phase : Phase
  device : Device
  registry : List OxProcess
  listing : Option Listing := none

namespace Surroundings

def registryAt (w : Surroundings) (t : Scene) : List OxProcess :=
  if t.phase.commands then w.after t.phase t.registry else t.registry

def listingAt (w : Surroundings) (t : Scene) : Listing :=
  match w.listError t.phase with
  | some e => .error e
  | none => .ok (w.registryAt t)

def replyAt (w : Surroundings) (t : Scene) : Reply :=
  { w.reply t.phase with answer := w.listingAt t }

end Surroundings

section Runs

variable (y : Reader) (env : Env) (d : Dir) (hash : Content → String)
  (names : String → Except String (List String)) (w : Surroundings)

namespace Job

def moveAt (j : Job) (t : Scene) : Move :=
  { j with phase := t.phase }.move y env d hash names (w.replyAt t) t.device

def sceneAfter (j : Job) (t : Scene) (phase : Phase) : Scene where
  phase := phase
  device := (j.moveAt y env d hash names w t).effect.apply t.device
  registry := w.registryAt t
  listing := if t.phase.lists then some (w.listingAt t) else t.listing

inductive Reaches (j : Job) (t₀ : Scene) : Scene → Prop
  | start : Reaches j t₀ t₀
  | step {t : Scene} {phase : Phase} (h : Reaches j t₀ t)
      (hm : (j.moveAt y env d hash names w t).next = .ok phase) :
      Reaches j t₀ (j.sceneAfter y env d hash names w t phase)

inductive Ends (j : Job) (t₀ : Scene) : Ending → Device → List OxProcess → Prop
  | intro {t : Scene} {e : Ending} (h : j.Reaches y env d hash names w t₀ t)
      (hm : (j.moveAt y env d hash names w t).next = .error e) :
      Ends j t₀ e ((j.moveAt y env d hash names w t).effect.apply t.device) (w.registryAt t)

end Job

end Runs

def Scene.core (s : Device) (registry : List OxProcess) : Scene := ⟨.queued, s, registry, none⟩

def Scene.startup (s : Device) (registry : List OxProcess) : Scene :=
  ⟨.bootQueued, s, registry, none⟩

end MediaServo.Host
