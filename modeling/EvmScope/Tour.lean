import EvmScope.Event
import EvmScope.Fault
import EvmScope.Hotspot.Basic
import EvmScope.Transition

set_option autoImplicit false

/-! # Tours

A tour leads through hotspots one at a time, the gravest first and those of one severity by falling
gas. It is idle or stands at a place of its ranking; the ranking of a tour under way is never empty, as
a place is a number below its length. Steps beyond either end leave the tour where it is. -/

namespace EvmScope

/-- A tour. -/
inductive Tour
  | idle
  | visiting (ranking : List Hotspot) (place : Fin ranking.length)

/-- Where a tour stands, counted from one. -/
structure TourStep where
  current : Nat
  total : Nat
  hotspot : Hotspot
  deriving DecidableEq, Repr

/-- How urgent a notice is. -/
inductive NoticeLevel
  | info
  | warning
  deriving DecidableEq, Repr

/-- The word for the level of a notice. -/
def NoticeLevel.name : NoticeLevel → String
  | info => "info"
  | warning => "warning"

/-- What a tour tells its handlers. -/
inductive TourEvent
  | stepChanged (step : TourStep)
  | notice (level : NoticeLevel) (message : String)
  | ended
  deriving DecidableEq, Repr

/-- The topic of an event of a tour. -/
def TourEvent.topic : TourEvent → Topic
  | stepChanged _ => .tourStepChanged
  | notice _ _ => .tourNotice
  | ended => .tourEnded

/-- A step of a tour. -/
abbrev TourMove (α : Type) := Transition Tour TourEvent α

namespace Tour

/-! ## The ranking -/

/-- The ranking of a tour: graver hotspots first, among equals those with more gas. -/
def ranksBefore (a b : Hotspot) : Bool :=
  a.severity.rank < b.severity.rank
    || (a.severity.rank = b.severity.rank && b.gas ≤ a.gas)

/-- Hotspots in the order of a tour; equals keep their order. -/
def order (hotspots : List Hotspot) : List Hotspot :=
  hotspots.mergeSort ranksBefore

/-! ## Looking at a tour -/

/-- Whether a tour is under way. -/
def isActive : Tour → Bool
  | idle => false
  | visiting _ _ => true

/-- The hotspots of a tour under way, none of an idle one. -/
def hotspots : Tour → List Hotspot
  | idle => []
  | visiting ranking _ => ranking

/-- The place counted from zero, minus one for an idle tour. -/
def index : Tour → Int
  | idle => -1
  | visiting _ place => place.val

/-- The hotspot that a tour stands at. -/
def current? : Tour → Option Hotspot
  | idle => none
  | visiting ranking place => some ranking[place]

/-- The step for a place of a ranking. -/
def stepAt (ranking : List Hotspot) (place : Fin ranking.length) : TourStep :=
  ⟨place.val + 1, ranking.length, ranking[place]⟩

/-! ## Notices -/

/-- There is nothing to visit. -/
def nothingFound : TourEvent :=
  .notice .info "No gas optimization opportunities found."

/-- A tour begins. -/
def found (count : Nat) : TourEvent :=
  .notice .info ("Gas Optimization Tour: Found " ++ Numeral.decimal count
    ++ " optimization opportunities.")

/-- The tour is at its end. -/
def atEnd : TourEvent :=
  .notice .info "You have reached the last optimization opportunity."

/-- The tour is at its start. -/
def atStart : TourEvent :=
  .notice .info "You are at the first optimization opportunity."

/-- There is no tour. -/
def notUnderWay : TourEvent :=
  .notice .warning "No active gas tour. Start a tour first."

/-- The ranking does not go that far; the place is counted from one. -/
def noSuchPlace (shown : String) : TourEvent :=
  .notice .warning ("No optimization opportunity at position " ++ shown ++ ".")

/-- The tour is over. -/
def completed : TourEvent :=
  .notice .info "Gas optimization tour completed."

/-! ## Moves -/

/-- Go to a place. -/
def goTo (ranking : List Hotspot) (place : Fin ranking.length) : TourMove (Option TourStep) :=
  let step := stepAt ranking place
  ⟨visiting ranking place, [.stepChanged step], some step⟩

/-- Stay at a place and say why. -/
def remain (ranking : List Hotspot) (place : Fin ranking.length) (reason : TourEvent) :
    TourMove (Option TourStep) :=
  ⟨visiting ranking place, [reason], some (stepAt ranking place)⟩

/-- Begin a tour over hotspots; without hotspots the tour stays as it is. -/
def start (tour : Tour) (hotspots : List Hotspot) : TourMove (Option TourStep) :=
  let ranking := order hotspots
  if h : 0 < ranking.length then
    let move := goTo ranking ⟨0, h⟩
    { move with events := found ranking.length :: move.events }
  else ⟨tour, [nothingFound], none⟩

/-- Go one place on. -/
def next : Tour → TourMove (Option TourStep)
  | idle => ⟨idle, [notUnderWay], none⟩
  | visiting ranking place =>
    if h : place.val + 1 < ranking.length then goTo ranking ⟨place.val + 1, h⟩
    else remain ranking place atEnd

/-- Go one place back. -/
def previous : Tour → TourMove (Option TourStep)
  | idle => ⟨idle, [notUnderWay], none⟩
  | visiting ranking place =>
    if place.val = 0 then remain ranking place atStart
    else goTo ranking ⟨place.val - 1, by omega⟩

/-- Go to a place counted from zero. A negative place is a fault, a place beyond the end a notice; an
    idle tour takes no notice at all. -/
def jumpTo (tour : Tour) (index : Int) : TourMove (Except Fault (Option TourStep)) :=
  if index < 0 then .stay tour (.error (.tourIndex index))
  else
    match tour with
    | idle => .stay idle (.ok none)
    | visiting ranking place =>
      if h : index.toNat < ranking.length then
        let move := goTo ranking ⟨index.toNat, h⟩
        { move with result := .ok move.result }
      else
        match Numeral.decimalWithin (index + 1) with
        | .ok shown => ⟨visiting ranking place, [noSuchPlace shown], .ok none⟩
        | .error cause => .stay (visiting ranking place) (.error (.numeral cause))

/-- End a tour; the result says whether one was under way. -/
def finish : Tour → TourMove Bool
  | idle => .stay idle false
  | visiting _ _ => ⟨idle, [.ended, completed], true⟩

end Tour

end EvmScope
