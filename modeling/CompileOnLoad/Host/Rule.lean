import CompileOnLoad.Host.Script
import CompileOnLoad.Text.Occurrence

/-!
# Hosts that follow rules

The routines of a host can be given by rules instead of scripts.  A rule applies to the
paths that contain a text; the first rule that applies says what is done.  An observer keeps
count of how often it has fired, and the host keeps a journal of all visits.
-/

namespace CompileOnLoad

structure Rule (Deed : Type) where
  needle : String
  deed : Deed
  deriving Repr

def Rule.find? {Deed : Type} (rules : List (Rule Deed)) (path : Path) : Option Deed :=
  (rules.find? fun rule => textContains path.text rule.needle).map Rule.deed

def artifactOf (source : Path) : Path := source.withExtension "eln"

inductive CompileDeed where
  | produce (artifact : Option Path)
  | refuse (failure : Path -> CompileFailure)
  | announce (path : Path)
  | exclude
  | panic (panic : Panic)

inductive LinkDeed where
  | accept
  | refuse (reason : String)
  | enqueue (request : Request)
  | panic (panic : Panic)

mutual

inductive ObserverDeed where
  | nothing
  | register (observer : RuledObserver)
  | unregister (id : Nat)
  | announce (path? : Option Path)
  | enqueue (request : Request)
  | exclude (pattern : Pattern)
  | runPending
  | panic (panic : Panic)

/-- An observer that fires on the paths that contain a text, as often as its limit allows. -/
inductive RuledObserver where
  | mk (name : String) (priority : Priority) (needle : String) (limit : Option Nat)
    (deed : ObserverDeed) (answer : Disposition)

end

namespace RuledObserver

def name : RuledObserver -> String
  | mk name _ _ _ _ _ => name

def priority : RuledObserver -> Priority
  | mk _ priority _ _ _ _ => priority

end RuledObserver

structure Placed where
  serial : Nat
  observer : RuledObserver

/-- What a host that follows rules remembers: the visits of its observers, for each firing
the serial number of the observer, and the next serial number. -/
structure Journal where
  visits : List (String × Option Path) := []
  firings : List Nat := []
  nextSerial : Nat := 0
  deriving Repr

abbrev RuledScript (α : Type) := Script Placed Journal α

def RuledObserver.register (observer : RuledObserver) : RuledScript Nat :=
  .consult fun journal =>
    .store { journal with nextSerial := journal.nextSerial + 1 }
      (.call (.register observer.priority observer.name ⟨journal.nextSerial, observer⟩) .done)

/-- What an observer does when it fires; `policy` is the policy that it excludes patterns
from. -/
def ObserverDeed.script (policy : Nat) : ObserverDeed -> RuledScript Unit
  | nothing => .done ()
  | register observer => observer.register.andThen fun _ => .done ()
  | unregister id => .call (.unregister id) fun _ => .done ()
  | announce path? => .call (.announce path?) fun _ => .done ()
  | enqueue request => .call (.enqueue request) fun _ => .done ()
  | exclude pattern => .call (.editPolicy policy (·.push pattern)) fun _ => .done ()
  | runPending => .call .runPending fun _ => .done ()
  | panic p => .panic p

def Placed.observe (policy : Nat) (placed : Placed) (path? : Option Path) :
    RuledScript Disposition :=
  match placed.observer with
  | .mk name _ needle limit deed answer =>
    .consult fun journal =>
      let journal := { journal with visits := journal.visits ++ [(name, path?)] }
      let text := match path? with
        | some path => path.text
        | none => ""
      let mayFire := match limit with
        | some n => journal.firings.count placed.serial < n
        | none => true
      if textContains text needle && mayFire then
        .store { journal with firings := placed.serial :: journal.firings }
          ((deed.script policy).andThen fun _ => .done answer)
      else .store journal (.done .passThrough)

def CompileDeed.script (policy : Nat) (source : Path) :
    CompileDeed -> RuledScript (Except CompileFailure Path)
  | produce artifact => .done (.ok (artifact.getD (artifactOf source)))
  | refuse failure => .done (.error (failure source))
  | announce path => .call (.announce (some path)) fun _ => .done (.ok (artifactOf source))
  | exclude =>
    .call (.editPolicy policy (·.push (.exactly source))) fun _ =>
      .done (.ok (artifactOf source))
  | panic p => .panic p

def LinkDeed.script (artifact : Path) : LinkDeed -> RuledScript (Except LoadFailure Unit)
  | accept => .done (.ok ())
  | refuse reason => .done (.error ⟨artifact, reason⟩)
  | enqueue request => .call (.enqueue request) fun _ => .done (.ok ())
  | panic p => .panic p

/-- The routines that follow rules.  Where no rule applies, a source file compiles and an
artifact links. -/
def Routines.ofRules (policy : Nat) (compiler : List (Rule CompileDeed))
    (linker : List (Rule LinkDeed)) : Routines Placed Journal where
  compile _ source := ((Rule.find? compiler source).getD (.produce none)).script policy source
  link artifact := ((Rule.find? linker artifact).getD .accept).script artifact
  observe := Placed.observe policy

end CompileOnLoad
