import ZumoDelivery.Driver.FloatArith
import ZumoDelivery.Driver.RingBuffer

set_option autoImplicit false

namespace ZumoDelivery

variable {F : Type} [FloatArith F]

open FloatArith

/-- A zero-initialised static ring buffer. -/
def rbStatic {α : Type} [Zero α] {k : ℕ} : RingBuffer α k where
  buffer := Vector.replicate (2 ^ k) 0
  startIndex := 0
  endIndex := 0
  start_lt := Nat.two_pow_pos k
  end_lt := Nat.two_pow_pos k

structure FilterData (F : Type) where
  numerator : RingBufferF F
  denominator : RingBufferF F
  outList : RingBufferF F
  inList : RingBufferF F

def filterStatic : FilterData F := ⟨rbStatic, rbStatic, rbStatic, rbStatic⟩

def filterInit (filt : FilterData F) (numeratorCoeffs denominatorCoeffs : ℕ → F)
    (order : UInt8) : FilterData F :=
  let cleared : FilterData F :=
    { numerator := rbInitialize filt.numerator
      denominator := rbInitialize filt.denominator
      inList := rbInitialize filt.inList
      outList := rbInitialize filt.outList }
  (List.range (order.toNat + 1)).foldl
    (fun filt i =>
      { numerator := rbPushBack filt.numerator (numeratorCoeffs i)
        denominator := rbPushBack filt.denominator (denominatorCoeffs i)
        inList := rbPushBack filt.inList 0
        outList := rbPushBack filt.outList 0 })
    cleared

/-- One pass of the loops that rewrite both histories with `rb_set`. -/
def filterRewrite (value : RingBufferF F → UInt8 → F) (filt : FilterData F) (i : ℕ) :
    Option (FilterData F) := do
  let index := UInt8.ofNat i
  let inList ← rbSet filt.inList index (value filt.inList index)
  let outList ← rbSet filt.outList index (value filt.outList index)
  return { filt with inList, outList }

def filterShiftBy (filt : FilterData F) (shiftAmount : F) : Option (FilterData F) :=
  (List.range (rbLength filt.inList).toNat).foldlM
    (filterRewrite fun list index => rbGet list index + shiftAmount) filt

def filterSetTo (filt : FilterData F) (amount : F) : Option (FilterData F) :=
  (List.range (rbLength filt.inList).toNat).foldlM (filterRewrite fun _ _ => amount) filt

def filterValue (filt : FilterData F) (value : F) : F × FilterData F :=
  let n := (rbLength filt.inList).toNat
  -- The oldest input and output make room; the new input is already in the sums.
  let inList := rbPushFront (rbPopBack filt.inList).2 value
  let outList := (rbPopBack filt.outList).2
  let sums : F × F := (List.range n).foldl
    (fun sums i =>
      let index := UInt8.ofNat i
      (sums.1 + rbGet filt.numerator index * rbGet inList index,
        if i < n - 1 then sums.2 + rbGet filt.denominator (index + 1) * rbGet outList index
        else sums.2))
    (0, 0)
  let outList := rbPushFront outList ((sums.1 - sums.2) / rbGet filt.denominator 0)
  (rbGet outList 0, { filt with inList, outList })

def filterLastOutput (filt : FilterData F) : F := rbGet filt.outList 0

def bitsToBatteryVolts : F := lit 0.004887585533

def batteryACoeff (i : ℕ) : F := [lit 1, lit (-1.9112), lit 0.9150].getD i 0

def batteryBCoeff (i : ℕ) : F := [lit 9.4469e-4, lit 18.8938e-4, lit 9.4469e-4].getD i 0

def batteryVoltageOneshot (adc : UInt16) : F := ofInt adc.toNat * bitsToBatteryVolts

/-- `rb_set` only meets indices inside the lists here, so `filterSetTo` returns. -/
def batteryMonitorInit (filt : FilterData F) (adc : UInt16) : FilterData F :=
  let filt := filterInit filt batteryBCoeff batteryACoeff 2
  (filterSetTo filt (batteryVoltageOneshot adc)).getD filt

def batteryVoltageTask (filt : FilterData F) (adc : UInt16) : F × FilterData F :=
  filterValue filt (batteryVoltageOneshot adc)

def batteryVoltage (filt : FilterData F) : F := filterLastOutput filt

example : batteryVoltage (batteryMonitorInit filterStatic 1023 : FilterData ℚ) =
    1023 * 0.004887585533 := by decide +kernel

structure Controller (F : Type) where
  controller : FilterData F
  kp : F
  targetPos : F
  targetVel : F
  updatePeriod : F

def controllerStatic : Controller F := ⟨filterStatic, 0, 0, 0, 0⟩

def controllerInit (cont : Controller F) (kp : F) (num den : ℕ → F) (order : UInt8)
    (updatePeriod : F) : Controller F :=
  { controller := filterInit cont.controller num den order
    kp
    updatePeriod
    targetPos := lit 0
    targetVel := lit 0 }

def controllerSetTargetVelocity (cont : Controller F) (vel : F) : Controller F :=
  { cont with targetVel := vel }

def controllerSetTargetPosition (cont : Controller F) (pos : F) : Controller F :=
  { cont with targetPos := pos }

end ZumoDelivery
