import DexPools.Reference
import DexPools.Opcode.Format

/-!
# The opcode table

One table holds what there is to know about each opcode: its mnemonic, its code, its format, the
kind of item its operand refers to and the first platform level that supports it. An opcode is
a position in the table, so the order of opcodes is the order of the rows and every question
about an opcode is a look-up.
-/

namespace DexPools

/-- What the reference operand of an opcode may name. -/
inductive OperandKind where
  | none
  | only (kind : ReferenceKind)
  | any
deriving DecidableEq, Repr, Inhabited

namespace OperandKind

/-- The one kind that is asked for, if there is one. -/
def kind? : OperandKind → Option ReferenceKind
  | only k => some k
  | none | any => Option.none

/-- Whether a reference of kind `k` may stand as the operand. -/
def admits (o : OperandKind) (k : ReferenceKind) : Bool :=
  match o with
  | none => false
  | only expected => expected == k
  | any => true

end OperandKind

structure OpcodeInfo where
  mnemonic : String
  code : UInt16
  format : Format
  operand : OperandKind
  minApi : UInt32
deriving DecidableEq, Repr, Inhabited

def opcodeTable : List OpcodeInfo :=
  [⟨"nop", 0x00, .f10x, .none, 1⟩,
   ⟨"move", 0x01, .f12x, .none, 1⟩,
   ⟨"move/from16", 0x02, .f22x, .none, 1⟩,
   ⟨"move/16", 0x03, .f32x, .none, 1⟩,
   ⟨"move-wide", 0x04, .f12x, .none, 1⟩,
   ⟨"move-wide/from16", 0x05, .f22x, .none, 1⟩,
   ⟨"move-wide/16", 0x06, .f32x, .none, 1⟩,
   ⟨"move-object", 0x07, .f12x, .none, 1⟩,
   ⟨"move-object/from16", 0x08, .f22x, .none, 1⟩,
   ⟨"move-object/16", 0x09, .f32x, .none, 1⟩,
   ⟨"move-result", 0x0a, .f11x, .none, 1⟩,
   ⟨"move-result-wide", 0x0b, .f11x, .none, 1⟩,
   ⟨"move-result-object", 0x0c, .f11x, .none, 1⟩,
   ⟨"move-exception", 0x0d, .f11x, .none, 1⟩,
   ⟨"return-void", 0x0e, .f10x, .none, 1⟩,
   ⟨"return", 0x0f, .f11x, .none, 1⟩,
   ⟨"return-wide", 0x10, .f11x, .none, 1⟩,
   ⟨"return-object", 0x11, .f11x, .none, 1⟩,
   ⟨"const/4", 0x12, .f11n, .none, 1⟩,
   ⟨"const/16", 0x13, .f21s, .none, 1⟩,
   ⟨"const", 0x14, .f31i, .none, 1⟩,
   ⟨"const/high16", 0x15, .f21ih, .none, 1⟩,
   ⟨"const-wide/16", 0x16, .f21s, .none, 1⟩,
   ⟨"const-wide/32", 0x17, .f31i, .none, 1⟩,
   ⟨"const-wide", 0x18, .f51l, .none, 1⟩,
   ⟨"const-wide/high16", 0x19, .f21lh, .none, 1⟩,
   ⟨"const-string", 0x1a, .f21c, .only .string, 1⟩,
   ⟨"const-string/jumbo", 0x1b, .f31c, .only .string, 1⟩,
   ⟨"const-class", 0x1c, .f21c, .only .type, 1⟩,
   ⟨"monitor-enter", 0x1d, .f11x, .none, 1⟩,
   ⟨"monitor-exit", 0x1e, .f11x, .none, 1⟩,
   ⟨"check-cast", 0x1f, .f21c, .only .type, 1⟩,
   ⟨"instance-of", 0x20, .f22c, .only .type, 1⟩,
   ⟨"array-length", 0x21, .f12x, .none, 1⟩,
   ⟨"new-instance", 0x22, .f21c, .only .type, 1⟩,
   ⟨"new-array", 0x23, .f22c, .only .type, 1⟩,
   ⟨"filled-new-array", 0x24, .f35c, .only .type, 1⟩,
   ⟨"filled-new-array/range", 0x25, .f3rc, .only .type, 1⟩,
   ⟨"fill-array-data", 0x26, .f31t, .none, 1⟩,
   ⟨"throw", 0x27, .f11x, .none, 1⟩,
   ⟨"goto", 0x28, .f10t, .none, 1⟩,
   ⟨"goto/16", 0x29, .f20t, .none, 1⟩,
   ⟨"goto/32", 0x2a, .f30t, .none, 1⟩,
   ⟨"packed-switch", 0x2b, .f31t, .none, 1⟩,
   ⟨"sparse-switch", 0x2c, .f31t, .none, 1⟩,
   ⟨"cmpl-float", 0x2d, .f23x, .none, 1⟩,
   ⟨"cmpg-float", 0x2e, .f23x, .none, 1⟩,
   ⟨"cmpl-double", 0x2f, .f23x, .none, 1⟩,
   ⟨"cmpg-double", 0x30, .f23x, .none, 1⟩,
   ⟨"cmp-long", 0x31, .f23x, .none, 1⟩,
   ⟨"if-eq", 0x32, .f22t, .none, 1⟩,
   ⟨"if-ne", 0x33, .f22t, .none, 1⟩,
   ⟨"if-lt", 0x34, .f22t, .none, 1⟩,
   ⟨"if-ge", 0x35, .f22t, .none, 1⟩,
   ⟨"if-gt", 0x36, .f22t, .none, 1⟩,
   ⟨"if-le", 0x37, .f22t, .none, 1⟩,
   ⟨"if-eqz", 0x38, .f21t, .none, 1⟩,
   ⟨"if-nez", 0x39, .f21t, .none, 1⟩,
   ⟨"if-ltz", 0x3a, .f21t, .none, 1⟩,
   ⟨"if-gez", 0x3b, .f21t, .none, 1⟩,
   ⟨"if-gtz", 0x3c, .f21t, .none, 1⟩,
   ⟨"if-lez", 0x3d, .f21t, .none, 1⟩,
   ⟨"aget", 0x44, .f23x, .none, 1⟩,
   ⟨"aget-wide", 0x45, .f23x, .none, 1⟩,
   ⟨"aget-object", 0x46, .f23x, .none, 1⟩,
   ⟨"aget-boolean", 0x47, .f23x, .none, 1⟩,
   ⟨"aget-byte", 0x48, .f23x, .none, 1⟩,
   ⟨"aget-char", 0x49, .f23x, .none, 1⟩,
   ⟨"aget-short", 0x4a, .f23x, .none, 1⟩,
   ⟨"aput", 0x4b, .f23x, .none, 1⟩,
   ⟨"aput-wide", 0x4c, .f23x, .none, 1⟩,
   ⟨"aput-object", 0x4d, .f23x, .none, 1⟩,
   ⟨"aput-boolean", 0x4e, .f23x, .none, 1⟩,
   ⟨"aput-byte", 0x4f, .f23x, .none, 1⟩,
   ⟨"aput-char", 0x50, .f23x, .none, 1⟩,
   ⟨"aput-short", 0x51, .f23x, .none, 1⟩,
   ⟨"iget", 0x52, .f22c, .only .field, 1⟩,
   ⟨"iget-wide", 0x53, .f22c, .only .field, 1⟩,
   ⟨"iget-object", 0x54, .f22c, .only .field, 1⟩,
   ⟨"iget-boolean", 0x55, .f22c, .only .field, 1⟩,
   ⟨"iget-byte", 0x56, .f22c, .only .field, 1⟩,
   ⟨"iget-char", 0x57, .f22c, .only .field, 1⟩,
   ⟨"iget-short", 0x58, .f22c, .only .field, 1⟩,
   ⟨"iput", 0x59, .f22c, .only .field, 1⟩,
   ⟨"iput-wide", 0x5a, .f22c, .only .field, 1⟩,
   ⟨"iput-object", 0x5b, .f22c, .only .field, 1⟩,
   ⟨"iput-boolean", 0x5c, .f22c, .only .field, 1⟩,
   ⟨"iput-byte", 0x5d, .f22c, .only .field, 1⟩,
   ⟨"iput-char", 0x5e, .f22c, .only .field, 1⟩,
   ⟨"iput-short", 0x5f, .f22c, .only .field, 1⟩,
   ⟨"sget", 0x60, .f21c, .only .field, 1⟩,
   ⟨"sget-wide", 0x61, .f21c, .only .field, 1⟩,
   ⟨"sget-object", 0x62, .f21c, .only .field, 1⟩,
   ⟨"sget-boolean", 0x63, .f21c, .only .field, 1⟩,
   ⟨"sget-byte", 0x64, .f21c, .only .field, 1⟩,
   ⟨"sget-char", 0x65, .f21c, .only .field, 1⟩,
   ⟨"sget-short", 0x66, .f21c, .only .field, 1⟩,
   ⟨"sput", 0x67, .f21c, .only .field, 1⟩,
   ⟨"sput-wide", 0x68, .f21c, .only .field, 1⟩,
   ⟨"sput-object", 0x69, .f21c, .only .field, 1⟩,
   ⟨"sput-boolean", 0x6a, .f21c, .only .field, 1⟩,
   ⟨"sput-byte", 0x6b, .f21c, .only .field, 1⟩,
   ⟨"sput-char", 0x6c, .f21c, .only .field, 1⟩,
   ⟨"sput-short", 0x6d, .f21c, .only .field, 1⟩,
   ⟨"invoke-virtual", 0x6e, .f35c, .only .method, 1⟩,
   ⟨"invoke-super", 0x6f, .f35c, .only .method, 1⟩,
   ⟨"invoke-direct", 0x70, .f35c, .only .method, 1⟩,
   ⟨"invoke-static", 0x71, .f35c, .only .method, 1⟩,
   ⟨"invoke-interface", 0x72, .f35c, .only .method, 1⟩,
   ⟨"invoke-virtual/range", 0x74, .f3rc, .only .method, 1⟩,
   ⟨"invoke-super/range", 0x75, .f3rc, .only .method, 1⟩,
   ⟨"invoke-direct/range", 0x76, .f3rc, .only .method, 1⟩,
   ⟨"invoke-static/range", 0x77, .f3rc, .only .method, 1⟩,
   ⟨"invoke-interface/range", 0x78, .f3rc, .only .method, 1⟩,
   ⟨"neg-int", 0x7b, .f12x, .none, 1⟩,
   ⟨"not-int", 0x7c, .f12x, .none, 1⟩,
   ⟨"neg-long", 0x7d, .f12x, .none, 1⟩,
   ⟨"not-long", 0x7e, .f12x, .none, 1⟩,
   ⟨"neg-float", 0x7f, .f12x, .none, 1⟩,
   ⟨"neg-double", 0x80, .f12x, .none, 1⟩,
   ⟨"int-to-long", 0x81, .f12x, .none, 1⟩,
   ⟨"int-to-float", 0x82, .f12x, .none, 1⟩,
   ⟨"int-to-double", 0x83, .f12x, .none, 1⟩,
   ⟨"long-to-int", 0x84, .f12x, .none, 1⟩,
   ⟨"long-to-float", 0x85, .f12x, .none, 1⟩,
   ⟨"long-to-double", 0x86, .f12x, .none, 1⟩,
   ⟨"float-to-int", 0x87, .f12x, .none, 1⟩,
   ⟨"float-to-long", 0x88, .f12x, .none, 1⟩,
   ⟨"float-to-double", 0x89, .f12x, .none, 1⟩,
   ⟨"double-to-int", 0x8a, .f12x, .none, 1⟩,
   ⟨"double-to-long", 0x8b, .f12x, .none, 1⟩,
   ⟨"double-to-float", 0x8c, .f12x, .none, 1⟩,
   ⟨"int-to-byte", 0x8d, .f12x, .none, 1⟩,
   ⟨"int-to-char", 0x8e, .f12x, .none, 1⟩,
   ⟨"int-to-short", 0x8f, .f12x, .none, 1⟩,
   ⟨"add-int", 0x90, .f23x, .none, 1⟩,
   ⟨"sub-int", 0x91, .f23x, .none, 1⟩,
   ⟨"mul-int", 0x92, .f23x, .none, 1⟩,
   ⟨"div-int", 0x93, .f23x, .none, 1⟩,
   ⟨"rem-int", 0x94, .f23x, .none, 1⟩,
   ⟨"and-int", 0x95, .f23x, .none, 1⟩,
   ⟨"or-int", 0x96, .f23x, .none, 1⟩,
   ⟨"xor-int", 0x97, .f23x, .none, 1⟩,
   ⟨"shl-int", 0x98, .f23x, .none, 1⟩,
   ⟨"shr-int", 0x99, .f23x, .none, 1⟩,
   ⟨"ushr-int", 0x9a, .f23x, .none, 1⟩,
   ⟨"add-long", 0x9b, .f23x, .none, 1⟩,
   ⟨"sub-long", 0x9c, .f23x, .none, 1⟩,
   ⟨"mul-long", 0x9d, .f23x, .none, 1⟩,
   ⟨"div-long", 0x9e, .f23x, .none, 1⟩,
   ⟨"rem-long", 0x9f, .f23x, .none, 1⟩,
   ⟨"and-long", 0xa0, .f23x, .none, 1⟩,
   ⟨"or-long", 0xa1, .f23x, .none, 1⟩,
   ⟨"xor-long", 0xa2, .f23x, .none, 1⟩,
   ⟨"shl-long", 0xa3, .f23x, .none, 1⟩,
   ⟨"shr-long", 0xa4, .f23x, .none, 1⟩,
   ⟨"ushr-long", 0xa5, .f23x, .none, 1⟩,
   ⟨"add-float", 0xa6, .f23x, .none, 1⟩,
   ⟨"sub-float", 0xa7, .f23x, .none, 1⟩,
   ⟨"mul-float", 0xa8, .f23x, .none, 1⟩,
   ⟨"div-float", 0xa9, .f23x, .none, 1⟩,
   ⟨"rem-float", 0xaa, .f23x, .none, 1⟩,
   ⟨"add-double", 0xab, .f23x, .none, 1⟩,
   ⟨"sub-double", 0xac, .f23x, .none, 1⟩,
   ⟨"mul-double", 0xad, .f23x, .none, 1⟩,
   ⟨"div-double", 0xae, .f23x, .none, 1⟩,
   ⟨"rem-double", 0xaf, .f23x, .none, 1⟩,
   ⟨"add-int/2addr", 0xb0, .f12x, .none, 1⟩,
   ⟨"sub-int/2addr", 0xb1, .f12x, .none, 1⟩,
   ⟨"mul-int/2addr", 0xb2, .f12x, .none, 1⟩,
   ⟨"div-int/2addr", 0xb3, .f12x, .none, 1⟩,
   ⟨"rem-int/2addr", 0xb4, .f12x, .none, 1⟩,
   ⟨"and-int/2addr", 0xb5, .f12x, .none, 1⟩,
   ⟨"or-int/2addr", 0xb6, .f12x, .none, 1⟩,
   ⟨"xor-int/2addr", 0xb7, .f12x, .none, 1⟩,
   ⟨"shl-int/2addr", 0xb8, .f12x, .none, 1⟩,
   ⟨"shr-int/2addr", 0xb9, .f12x, .none, 1⟩,
   ⟨"ushr-int/2addr", 0xba, .f12x, .none, 1⟩,
   ⟨"add-long/2addr", 0xbb, .f12x, .none, 1⟩,
   ⟨"sub-long/2addr", 0xbc, .f12x, .none, 1⟩,
   ⟨"mul-long/2addr", 0xbd, .f12x, .none, 1⟩,
   ⟨"div-long/2addr", 0xbe, .f12x, .none, 1⟩,
   ⟨"rem-long/2addr", 0xbf, .f12x, .none, 1⟩,
   ⟨"and-long/2addr", 0xc0, .f12x, .none, 1⟩,
   ⟨"or-long/2addr", 0xc1, .f12x, .none, 1⟩,
   ⟨"xor-long/2addr", 0xc2, .f12x, .none, 1⟩,
   ⟨"shl-long/2addr", 0xc3, .f12x, .none, 1⟩,
   ⟨"shr-long/2addr", 0xc4, .f12x, .none, 1⟩,
   ⟨"ushr-long/2addr", 0xc5, .f12x, .none, 1⟩,
   ⟨"add-float/2addr", 0xc6, .f12x, .none, 1⟩,
   ⟨"sub-float/2addr", 0xc7, .f12x, .none, 1⟩,
   ⟨"mul-float/2addr", 0xc8, .f12x, .none, 1⟩,
   ⟨"div-float/2addr", 0xc9, .f12x, .none, 1⟩,
   ⟨"rem-float/2addr", 0xca, .f12x, .none, 1⟩,
   ⟨"add-double/2addr", 0xcb, .f12x, .none, 1⟩,
   ⟨"sub-double/2addr", 0xcc, .f12x, .none, 1⟩,
   ⟨"mul-double/2addr", 0xcd, .f12x, .none, 1⟩,
   ⟨"div-double/2addr", 0xce, .f12x, .none, 1⟩,
   ⟨"rem-double/2addr", 0xcf, .f12x, .none, 1⟩,
   ⟨"add-int/lit16", 0xd0, .f22s, .none, 1⟩,
   ⟨"rsub-int", 0xd1, .f22s, .none, 1⟩,
   ⟨"mul-int/lit16", 0xd2, .f22s, .none, 1⟩,
   ⟨"div-int/lit16", 0xd3, .f22s, .none, 1⟩,
   ⟨"rem-int/lit16", 0xd4, .f22s, .none, 1⟩,
   ⟨"and-int/lit16", 0xd5, .f22s, .none, 1⟩,
   ⟨"or-int/lit16", 0xd6, .f22s, .none, 1⟩,
   ⟨"xor-int/lit16", 0xd7, .f22s, .none, 1⟩,
   ⟨"add-int/lit8", 0xd8, .f22b, .none, 1⟩,
   ⟨"rsub-int/lit8", 0xd9, .f22b, .none, 1⟩,
   ⟨"mul-int/lit8", 0xda, .f22b, .none, 1⟩,
   ⟨"div-int/lit8", 0xdb, .f22b, .none, 1⟩,
   ⟨"rem-int/lit8", 0xdc, .f22b, .none, 1⟩,
   ⟨"and-int/lit8", 0xdd, .f22b, .none, 1⟩,
   ⟨"or-int/lit8", 0xde, .f22b, .none, 1⟩,
   ⟨"xor-int/lit8", 0xdf, .f22b, .none, 1⟩,
   ⟨"shl-int/lit8", 0xe0, .f22b, .none, 1⟩,
   ⟨"shr-int/lit8", 0xe1, .f22b, .none, 1⟩,
   ⟨"ushr-int/lit8", 0xe2, .f22b, .none, 1⟩,
   ⟨"throw-verification-error", 0xed, .f20bc, .any, 5⟩,
   ⟨"execute-inline", 0xee, .f35mi, .none, 1⟩,
   ⟨"execute-inline/range", 0xef, .f3rmi, .none, 8⟩,
   ⟨"iget-quick", 0xf2, .f22cs, .none, 1⟩,
   ⟨"invoke-virtual-quick", 0xf8, .f35ms, .none, 1⟩,
   ⟨"invoke-virtual-quick/range", 0xf9, .f3rms, .none, 1⟩,
   ⟨"invoke-polymorphic", 0xfa, .f45cc, .only .method, 26⟩,
   ⟨"invoke-polymorphic/range", 0xfb, .f4rcc, .only .method, 26⟩,
   ⟨"invoke-custom", 0xfc, .f35c, .only .callSite, 26⟩,
   ⟨"invoke-custom/range", 0xfd, .f3rc, .only .callSite, 26⟩,
   ⟨"const-method-handle", 0xfe, .f21c, .only .methodHandle, 28⟩,
   ⟨"const-method-type", 0xff, .f21c, .only .methodProto, 28⟩,
   ⟨"packed-switch-payload", 0x0100, .packedSwitchPayload, .none, 1⟩,
   ⟨"sparse-switch-payload", 0x0200, .sparseSwitchPayload, .none, 1⟩,
   ⟨"array-payload", 0x0300, .arrayPayload, .none, 1⟩]

/-- An opcode, given by its row in the table. -/
structure Opcode where
  row : Fin opcodeTable.length
deriving DecidableEq, Repr

namespace Opcode

def all : List Opcode :=
  (List.finRange opcodeTable.length).map Opcode.mk

def info (op : Opcode) : OpcodeInfo :=
  opcodeTable[op.row]

def mnemonic (op : Opcode) : String :=
  op.info.mnemonic

/-- The code; a payload has its full 16-bit identifier. -/
def code (op : Opcode) : UInt16 :=
  op.info.code

def format (op : Opcode) : Format :=
  op.info.format

def operand (op : Opcode) : OperandKind :=
  op.info.operand

/-- What the second reference operand may name: the prototype of a polymorphic call. -/
def secondOperand (op : Opcode) : OperandKind :=
  match op.format with
  | .f45cc | .f4rcc => .only .methodProto
  | _ => .none

def minApi (op : Opcode) : UInt32 :=
  op.info.minApi

/-- Opcodes that only optimised files hold. -/
def isOptimised (op : Opcode) : Bool :=
  op.format.isOptimised

def isPayload (op : Opcode) : Bool :=
  op.format.isPayload

def compare (a b : Opcode) : Ordering :=
  Ord.compare a.row.val b.row.val

def ofMnemonic? (s : String) : Option Opcode :=
  all.find? (·.mnemonic == s)

def packedSwitchPayload : Opcode :=
  ⟨⟨230, by decide +kernel⟩⟩

def sparseSwitchPayload : Opcode :=
  ⟨⟨231, by decide +kernel⟩⟩

def arrayPayload : Opcode :=
  ⟨⟨232, by decide +kernel⟩⟩

example : [packedSwitchPayload, sparseSwitchPayload, arrayPayload].map format =
    [.packedSwitchPayload, .sparseSwitchPayload, .arrayPayload] := rfl

end Opcode

end DexPools
