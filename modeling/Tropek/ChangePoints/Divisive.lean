import Mathlib.Data.List.MinMax
import Tropek.ChangePoints.Detection

namespace Tropek
namespace ChangePoints

open Library Engine

/-!
# The E-Divisive engine

The engine looks for change points in two phases.  The split phase slides a window over
the series, searches each window recursively for the index with the largest Q-hat, and
keeps those whose t-test passes a relaxed threshold.  The merge phase removes the weakest
point until all pass the real thresholds, and recomputes the statistics of neighbours after
each removal.

The t-test is a parameter: its p-value is an arbitrary function of the two segments, and so
is the standard deviation of a segment, which is a square root.  Means, relative changes and
Q-hat are exact.  Every `while` loop runs on a fuel, and running out of it raises.
-/

namespace Divisive

structure TTest where
  pvalue : List ℚ -> List ℚ -> ℚ
  std : List ℚ -> ℚ

/-- `TTestStats`. -/
structure Stats where
  mean1 : ℚ
  mean2 : ℚ
  std1 : ℚ
  std2 : ℚ
  pvalue : ℚ
deriving DecidableEq

def mean (segment : List ℚ) : ℚ :=
  segment.sum / segment.length

/-- The relative change from one mean to the other, and zero where it is undefined. -/
def relChange (first second : ℚ) : ℚ :=
  if first = 0 then 0 else second / first - 1

def Stats.changeMagnitude (stats : Stats) : ℚ :=
  max |relChange stats.mean1 stats.mean2| |relChange stats.mean2 stats.mean1|

def TTest.statsOf (test : TTest) (left right : List ℚ) : Stats :=
  { mean1 := mean left
    mean2 := mean right
    std1 := if 2 ≤ left.length then test.std left else 0
    std2 := if 2 ≤ right.length then test.std right else 0
    pvalue := if 2 < left.length + right.length then test.pvalue left right else 1 }

def TTest.compare (test : TTest) (left right : List ℚ) : Except DetectionError Stats :=
  if left = [] ∨ right = [] then .error .engine else .ok (test.statsOf left right)

structure Interval where
  start : Nat
  stop : Option Nat
deriving DecidableEq

def Interval.of (interval : Interval) (series : List ℚ) : List ℚ :=
  (series.take (interval.stop.getD series.length)).drop interval.start

def intervalsFrom (start : Nat) : List Nat -> List Interval
  | [] => [⟨start, none⟩]
  | index :: rest => ⟨start, some index⟩ :: intervalsFrom index rest

/-- The slices that the indices cut the series into, without the empty ones. -/
def getIntervals (indices : List Nat) : List Interval :=
  (intervalsFrom 0 indices).filter fun interval => interval.stop ≠ some interval.start

/-- The two intervals on the sides of a candidate: the neighbours at a boundary, or the two
parts of the interval that it is inside of. -/
def locate (index : Nat) : List Interval -> Option (Interval × Interval)
  | [] => none
  | interval :: rest =>
      if interval.stop = some index then rest.head?.map fun right => (interval, right)
      else if interval.start < index ∧ interval.stop.all (index < ·) then
        some (⟨interval.start, some index⟩, ⟨index, interval.stop⟩)
      else locate index rest

structure CandidateChangePoint where
  index : Nat
  qhat : ℚ

structure ChangePoint where
  index : Nat
  qhat : ℚ
  stats : Stats

def TTest.changePoint (test : TTest) (candidate : CandidateChangePoint) (series : List ℚ)
    (intervals : List Interval) : Except DetectionError ChangePoint :=
  match locate candidate.index intervals with
  | none => .error .engine
  | some (left, right) => do
      let stats <- test.compare (left.of series) (right.of series)
      return { index := candidate.index, qhat := candidate.qhat, stats }

def ChangePoint.toCandidate (point : ChangePoint) : CandidateChangePoint :=
  { index := point.index, qhat := point.qhat }

def distance (series : List ℚ) (first second : Nat) : ℚ :=
  |series.getD first 0 - series.getD second 0|

/-- The sum over the numbers from `first` on and below `last`. -/
def sumOver (first last : Nat) (term : Nat -> ℚ) : ℚ :=
  ((List.range' first (last - first)).map term).sum

/-- `V[t]` of an interval: the distances from the values before the one at `t + 1` to it. -/
def vertical (series : List ℚ) (start t : Nat) : ℚ :=
  sumOver start (start + t + 1) fun row => distance series row (start + t + 1)

/-- `H[i, j]` of an interval: the distances from the value at `i` to the following ones, up
to the one at `j + 1`. -/
def horizontal (series : List ℚ) (start i j : Nat) : ℚ :=
  sumOver (start + i + 1) (start + j + 2) fun column => distance series (start + i) column

/-- The entry of the matrix `A - B - C`, for `tau = start + 1 + i` and
`kappa = start + 2 + j`.  The three matrices vanish below the diagonal. -/
def qValue (series : List ℚ) (start stop i j : Nat) : ℚ :=
  if j < i then 0
  else
    let size := j + 2
    let before := sumOver 0 i (vertical series start)
    let a := 2 / size * (sumOver 0 (i + 1) (horizontal series start · j) - before)
    let b := if i = 0 then 0 else 2 * (j + 1 - i : ℚ) / (size * i) * before
    let c := if j = i then 0
      else 2 * (i + 1 : ℚ) / (size * (j - i)) *
        sumOver (i + 1) (stop - start - 1) (horizontal series start · j)
    a - b - c

/-- The index that maximises Q-hat in an interval, the first one in row order. -/
def getCandidateChangePoint (series : List ℚ) (interval : Interval) : Option CandidateChangePoint :=
  let stop := interval.stop.getD series.length
  let numbers := List.range (stop - interval.start - 1)
  let value (pair : Nat × Nat) : ℚ := qValue series interval.start stop pair.1 pair.2
  ((numbers.product numbers).argmax value).map fun best =>
    { index := best.1 + 1 + interval.start, qhat := value best }

def getNextCandidate (series : List ℚ) (intervals : List Interval) : Option CandidateChangePoint :=
  ((intervals.filter fun interval => 1 < (interval.of series).length).filterMap
    (getCandidateChangePoint series)).argmax (·.qhat)

def indicesOf (points : List ChangePoint) : List Nat :=
  points.map (·.index)

def searchLoop (test : TTest) (maxPvalue : ℚ) (series : List ℚ) :
    Nat -> List ChangePoint -> Except DetectionError (List ChangePoint)
  | 0, _ => .error .engine
  | fuel + 1, points =>
      let intervals := getIntervals (indicesOf points)
      match getNextCandidate series intervals with
      | none => .ok points
      | some candidate => do
          let point <- test.changePoint candidate series intervals
          if point.stats.pvalue ≤ maxPvalue then
            searchLoop test maxPvalue series fuel
              (Latest.sortBy ChangePoint.index (points ++ [point]))
          else return points

/-- `ChangePointDetector.get_change_points`, on `series[start:stop]`. -/
def getChangePoints (test : TTest) (maxPvalue : ℚ) (series : List ℚ) (start stop : Nat) :
    Except DetectionError (List ChangePoint) := do
  let array := (series.take stop).drop start
  let points <- searchLoop test maxPvalue array (array.length + 1) []
  return (points.map fun point => { point with index := point.index + start }).filter
    (·.index < stop)

/-- Add a point of a window, unless it is at an end of the series or is there already. -/
def addPoint (seriesLength : Nat) (points : List ChangePoint) (point : ChangePoint) :
    List ChangePoint :=
  if point.index = 0 ∨ seriesLength ≤ point.index then points
  else if points.any (·.index = point.index) then points
  else points ++ [point]

/-- The loop over the windows.  The next window starts half a window later, or at the last
new point when that is later still. -/
def splitLoop (test : TTest) (windowLength : Nat) (maxPvalue : ℚ) (series : List ℚ) :
    Nat -> Nat -> List ChangePoint -> Except DetectionError (List ChangePoint)
  | 0, start, points => if start < series.length then .error .engine else .ok points
  | fuel + 1, start, points =>
      if start < series.length then do
        let stop := min (start + windowLength) series.length
        let newPoints <- getChangePoints test maxPvalue series start stop
        let lastNewIndex := (newPoints.getLast?.map (·.index)).getD 0
        splitLoop test windowLength maxPvalue series fuel
          (max lastNewIndex (start + windowLength / 2))
          (newPoints.foldl (addPoint series.length) points)
      else .ok points

/-- The split phase.  The statistics of the points are those of the whole series. -/
def split (test : TTest) (series : List ℚ) (windowLength : Nat) (maxPvalue : ℚ) :
    Except DetectionError (List ChangePoint) := do
  let found <- splitLoop test windowLength maxPvalue series series.length 0 []
  let points := Latest.sortBy ChangePoint.index found
  let intervals := getIntervals (indicesOf points)
  points.mapM fun point => test.changePoint point.toCandidate series intervals

/-- The place of the point that is removed next, unless all are significant: the one with
the highest p-value, or the one with the smallest magnitude when all p-values pass. -/
def weakestIndex (maxPvalue minMagnitude : ℚ) (points : List ChangePoint) : Option Nat := do
  let leastSignificant <- points.argmax (·.stats.pvalue)
  if leastSignificant.stats.pvalue < maxPvalue then
    let smallest <- points.argmin (·.stats.changeMagnitude)
    if minMagnitude < smallest.stats.changeMagnitude then none
    else some (points.findIdx (·.index = smallest.index))
  else some (points.findIdx (·.index = leastSignificant.index))

def recomputeNeighbor (test : TTest) (series : List ℚ) (intervals : List Interval) (place : Nat)
    (points : List ChangePoint) : Except DetectionError (List ChangePoint) :=
  match points[place]? with
  | none => .ok points
  | some point => do
      let recomputed <- test.changePoint point.toCandidate series intervals
      return points.set place recomputed

/-- Remove the weakest point and recompute the points at its place and at the next one. -/
def removeAt (test : TTest) (series : List ℚ) (place : Nat) (points : List ChangePoint) :
    Except DetectionError (List ChangePoint) := do
  let points := points.eraseIdx place
  let intervals := getIntervals (indicesOf points)
  let points <- recomputeNeighbor test series intervals place points
  recomputeNeighbor test series intervals (place + 1) points

def mergeLoop (test : TTest) (series : List ℚ) (maxPvalue minMagnitude : ℚ) :
    Nat -> List ChangePoint -> Except DetectionError (List ChangePoint)
  | 0, points => if points = [] then .ok points else .error .engine
  | fuel + 1, points =>
      match weakestIndex maxPvalue minMagnitude points with
      | none => .ok points
      | some place => do
          let remaining <- removeAt test series place points
          mergeLoop test series maxPvalue minMagnitude fuel remaining

def merge (test : TTest) (points : List ChangePoint) (series : List ℚ)
    (maxPvalue minMagnitude : ℚ) : Except DetectionError (List ChangePoint) :=
  mergeLoop test series maxPvalue minMagnitude points.length points

def ChangePoint.toEnginePoint (point : ChangePoint) : EnginePoint :=
  { index := point.index
    preMean := point.stats.mean1
    postMean := point.stats.mean2
    postStd := point.stats.std2
    pvalue := point.stats.pvalue }

def engine (test : TTest) : DivisiveEngine :=
  fun series windowLength firstPassPvalue maxPvalue minMagnitude => do
    let weak <- split test series windowLength.toNat firstPassPvalue
    let detected <- merge test weak series maxPvalue minMagnitude
    return detected.map ChangePoint.toEnginePoint

end Divisive

end ChangePoints
end Tropek
