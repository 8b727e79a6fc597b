/-!
# Operation classes

The classes of instructions that a functional unit can execute.
-/

namespace Polycore

/-- Instruction class that a functional unit can execute. -/
inductive OpClass where
  | intAlu
  | intMult
  | intDiv
  | floatAdd
  | floatCmp
  | floatCvt
  | floatMult
  | floatMultAcc
  | floatMisc
  | floatDiv
  | floatSqrt
  | simdAdd
  | simdAddAcc
  | simdAlu
  | simdCmp
  | simdCvt
  | simdMisc
  | simdMult
  | simdMultAcc
  | simdMatMultAcc
  | simdShift
  | simdShiftAcc
  | simdDiv
  | simdSqrt
  | simdFloatAdd
  | simdFloatAlu
  | simdFloatCmp
  | simdFloatCvt
  | simdFloatDiv
  | simdFloatMisc
  | simdFloatMult
  | simdFloatMultAcc
  | simdFloatMatMultAcc
  | simdFloatSqrt
  | simdReduceAdd
  | simdReduceAlu
  | simdReduceCmp
  | simdFloatReduceAdd
  | simdFloatReduceCmp
  | simdPredAlu
  | memRead
  | memWrite
  | floatMemRead
  | floatMemWrite
  | iprAccess
deriving DecidableEq, Repr, Inhabited

namespace OpClass

def all : List OpClass :=
  [intAlu, intMult, intDiv, floatAdd, floatCmp, floatCvt, floatMult, floatMultAcc, floatMisc,
    floatDiv, floatSqrt, simdAdd, simdAddAcc, simdAlu, simdCmp, simdCvt, simdMisc, simdMult,
    simdMultAcc, simdMatMultAcc, simdShift, simdShiftAcc, simdDiv, simdSqrt, simdFloatAdd,
    simdFloatAlu, simdFloatCmp, simdFloatCvt, simdFloatDiv, simdFloatMisc, simdFloatMult,
    simdFloatMultAcc, simdFloatMatMultAcc, simdFloatSqrt, simdReduceAdd, simdReduceAlu,
    simdReduceCmp, simdFloatReduceAdd, simdFloatReduceCmp, simdPredAlu, memRead, memWrite,
    floatMemRead, floatMemWrite, iprAccess]

def label : OpClass → String
  | intAlu => "IntAlu"
  | intMult => "IntMult"
  | intDiv => "IntDiv"
  | floatAdd => "FloatAdd"
  | floatCmp => "FloatCmp"
  | floatCvt => "FloatCvt"
  | floatMult => "FloatMult"
  | floatMultAcc => "FloatMultAcc"
  | floatMisc => "FloatMisc"
  | floatDiv => "FloatDiv"
  | floatSqrt => "FloatSqrt"
  | simdAdd => "SimdAdd"
  | simdAddAcc => "SimdAddAcc"
  | simdAlu => "SimdAlu"
  | simdCmp => "SimdCmp"
  | simdCvt => "SimdCvt"
  | simdMisc => "SimdMisc"
  | simdMult => "SimdMult"
  | simdMultAcc => "SimdMultAcc"
  | simdMatMultAcc => "SimdMatMultAcc"
  | simdShift => "SimdShift"
  | simdShiftAcc => "SimdShiftAcc"
  | simdDiv => "SimdDiv"
  | simdSqrt => "SimdSqrt"
  | simdFloatAdd => "SimdFloatAdd"
  | simdFloatAlu => "SimdFloatAlu"
  | simdFloatCmp => "SimdFloatCmp"
  | simdFloatCvt => "SimdFloatCvt"
  | simdFloatDiv => "SimdFloatDiv"
  | simdFloatMisc => "SimdFloatMisc"
  | simdFloatMult => "SimdFloatMult"
  | simdFloatMultAcc => "SimdFloatMultAcc"
  | simdFloatMatMultAcc => "SimdFloatMatMultAcc"
  | simdFloatSqrt => "SimdFloatSqrt"
  | simdReduceAdd => "SimdReduceAdd"
  | simdReduceAlu => "SimdReduceAlu"
  | simdReduceCmp => "SimdReduceCmp"
  | simdFloatReduceAdd => "SimdFloatReduceAdd"
  | simdFloatReduceCmp => "SimdFloatReduceCmp"
  | simdPredAlu => "SimdPredAlu"
  | memRead => "MemRead"
  | memWrite => "MemWrite"
  | floatMemRead => "FloatMemRead"
  | floatMemWrite => "FloatMemWrite"
  | iprAccess => "IprAccess"

/-- The classes that the vector unit of the wide pool serves. -/
def vector : List OpClass :=
  [simdAdd, simdAddAcc, simdAlu, simdCmp, simdCvt, simdMisc, simdMult, simdMultAcc,
    simdMatMultAcc, simdShift, simdShiftAcc, simdDiv, simdSqrt, simdFloatAdd, simdFloatAlu,
    simdFloatCmp, simdFloatCvt, simdFloatDiv, simdFloatMisc, simdFloatMult, simdFloatMultAcc,
    simdFloatMatMultAcc, simdFloatSqrt, simdReduceAdd, simdReduceAlu, simdReduceCmp,
    simdFloatReduceAdd, simdFloatReduceCmp]

end OpClass

end Polycore
