import Loom.Unicode.RangeTable

/-!
# Simple case folding

Each character folds to one character; two characters are case variants of each other when they
fold to the same one.
-/

namespace Loom.Unicode

/-- The characters that do not fold to themselves, in order: the gap to the previous one, then
the code point it folds to. -/
def foldingCode : List String :=
  ["CnDtbDubDvbDwbDxbDybDzbEabEbbEcbEdbEebEfbEgbEhbEibEjbEkbElbEmbEnbEobEpbEqbErbEsDnBKulIqbIrbI",
   "sbItbIubIvbIwbIxbIybIzbJabJbbJcbJdbJebJfbJgbJhbJibJjbJkbJlbJmcJobJpbJqbJrbJsbJtbJuBiJxcJzcKb",
   "cKdcKfcKhcKjcKlcKncKpcKrcKtcKvcKxcKzcLbcLdcLfcLhcLjcLlcLncLpcLreLvcLxcLzdMccMecMgcMicMkcMmcM",
   "ocMqdMtcMvcMxcMzcNbcNdcNfcNhcNjcNlcNncNpcNrcNtcNvcNxcNzcObcOdcOfcOhcOjcOlcJvbOocOqcOscElcWxb",
   "OxcOzcWybPccXabXbbPgdSjbXdbXfbPmcXkbXncXtbXsbPteXzbYccYfbQbcQdcQfcYqbQicYtdQncYybQqcZabZbbQu",
   "cQwcZibQzeRdiRmbRmcRpbRpcRsbRscRucRwcRycSacSccSecSgcSidSlcSncSpcSrcStcSvcSxcSzcTbdTfbTfcThcP",
   "pbRfbTlcTncTpcTrcTtcTvcTxcTzcUbcUdcUfcUhcUjcUlcUncUpcUrcUtcUvcUxcPycVbcVdcVfcVhcVjcVlcVncVpc",
   "VriQVdbWacPubQVedWgcOubYzbZcbWlcWncWpcWrcWtJnBKrBrBHxcBHzeBIdjBMxhBKecBKfbBKgbBKhcBLkcBLlbBL",
   "mcBKjbBKkbBKlbBKmbBKnbBKobBKpbBKqbBKrbBKsbBKtbBKubBKvbBKwbBKxbBKybBKzcBLbbBLcbBLdbBLebBLfbBL",
   "gbBLhbBLibBLjxBLbnBLvbBKkbBKqeBLebBKycBLxcBLzcBMbcBMdcBMfcBMhcBMjcBMlcBMncBMpcBMrcBMtcBKsbBK",
   "zdBKqbBKncBNccBMwbBNfdBIhbBIibBIjbBQmbBQnbBQobBQpbBQqbBQrbBQsbBQtbBQubBQvbBQwbBQxbBQybBQzbBR",
   "abBRbbBPgbBPhbBPibBPjbBPkbBPlbBPmbBPnbBPobBPpbBPqbBPrbBPsbBPtbBPubBPvbBPwbBPxbBPybBPzbBQabBQ",
   "bbBQcbBQdbBQebBQfbBQgbBQhbBQibBQjbBQkbBQlBxBRdcBRfcBRhcBRjcBRlcBRncBRpcBRrcBRtcBRvcBRxcBRzcB",
   "SbcBSdcBSfcBShcBSjkBStcBSvcBSxcBSzcBTbcBTdcBTfcBThcBTjcBTlcBTncBTpcBTrcBTtcBTvcBTxcBTzcBUbcB",
   "UdcBUfcBUhcBUjcBUlcBUncBUpcBUrcBUtcBVjbBUwcBUycBVacBVccBVecBVgcBVidBVlcBVncBVpcBVrcBVtcBVvcB",
   "VxcBVzcBWbcBWdcBWfcBWhcBWjcBWlcBWncBWpcBWrcBWtcBWvcBWxcBWzcBXbcBXdcBXfcBXhcBXjcBXlcBXncBXpcB",
   "XrcBXtcBXvcBXxcBXzcBYbcBYdcBYfcBYhcBYjcBYlcBYncBYpcBYrcBYtcBYvcBYxcBYzcBZbdCAzbCBabCBbbCBcbC",
   "BdbCBebCBfbCBgbCBhbCBibCBjbCBkbCBlbCBmbCBnbCBobCBpbCBqbCBrbCBsbCBtbCBubCBvbCBwbCBxbCBybCBzbC",
   "CabCCbbCCcbCCdbCCebCCfbCCgbCChbCCibCCjbCCkEHeRBcbRBdbRBebRBfbRBgbRBhbRBibRBjbRBkbRBlbRBmbRBn",
   "bRBobRBpbRBqbRBrbRBsbRBtbRBubRBvbRBwbRBxbRBybRBzbRCabRCbbRCcbRCdbRCebRCfbRCgbRChbRCibRCjbRCk",
   "bRClbRCmbRCncRCpgRCvBFfHOibHOjbHOkbHOlbHOmbHOnDFvBPibBPkbBPubBPxbBPybBPybBQgbBRfbCKZjbKVahGJ",
   "obGJpbGJqbGJrbGJsbGJtbGJubGJvbGJwbGJxbGJybGJzbGKabGKbbGKcbGKdbGKebGKfbGKgbGKhbGKibGKjbGKkbGK",
   "lbGKmbGKnbGKobGKpbGKqbGKrbGKsbGKtbGKubGKvbGKwbGKxbGKybGKzbGLabGLbbGLcbGLdbGLedGLhbGLibGLjMjL",
   "JlcLJncLJpcLJrcLJtcLJvcLJxcLJzcLKbcLKdcLKfcLKhcLKjcLKlcLKncLKpcLKrcLKtcLKvcLKxcLKzcLLbcLLdcL",
   "LfcLLhcLLjcLLlcLLncLLpcLLrcLLtcLLvcLLxcLLzcLMbcLMdcLMfcLMhcLMjcLMlcLMncLMpcLMrcLMtcLMvcLMxcL",
   "MzcLNbcLNdcLNfcLNhcLNjcLNlcLNncLNpcLNrcLNtcLNvcLNxcLNzcLObcLOdcLOfcLOhcLOjcLOlcLOncLOpcLOrcL",
   "OtcLOvcLOxcLOzcLPbcLPdhLNddIpcLPpcLPrcLPtcLPvcLPxcLPzcLQbcLQdcLQfcLQhcLQjcLQlcLQncLQpcLQrcLQ",
   "tcLQvcLQxcLQzcLRbcLRdcLRfcLRhcLRjcLRlcLRncLRpcLRrcLRtcLRvcLRxcLRzcLSbcLSdcLSfcLShcLSjcLSlcLS",
   "ncLSpcLSrcLStcLSvcLSxcLSzcLTbcLTdcLTfkLTgbLThbLTibLTjbLTkbLTlbLTmbLTnjLTwbLTxbLTybLTzbLUabLU",
   "blLUmbLUnbLUobLUpbLUqbLUrbLUsbLUtjLVcbLVdbLVebLVfbLVgbLVhbLVibLVjjLVsbLVtbLVubLVvbLVwbLVxmLW",
   "jcLWlcLWncLWpjLWybLWzbLXabLXbbLXcbLXdbLXebLXfzLYebLYfbLYgbLYhbLYibLYjbLYkbLYljLYubLYvbLYwbLY",
   "xbLYybLYzbLZabLZbjLZkbLZlbLZmbLZnbLZobLZpbLZqbLZrjMAabMAbbLXobLXpbMAdcBKrkLXqbLXrbLXsbLXtbMA",
   "thBJcfMBgbMBhbLXubLXviBKifMBwbMBxbLXybLXzbMCbmLXwbLXxbLYabLYbbMCpLmBLheEdbIvhMPyBuMRgbMRhbMR",
   "ibMRjbMRkbMRlbMRmbMRnbMRobMRpbMRqbMRrbMRsbMRtbMRubMRvuMSaBFnNYmbNYnbNYobNYpbNYqbNYrbNYsbNYtb",
   "NYubNYvbNYwbNYxbNYybNYzbNZabNZbbNZcbNZdbNZebNZfbNZgbNZhbNZibNZjbNZkbNZlCSvQTcbQTdbQTebQTfbQT",
   "gbQThbQTibQTjbQTkbQTlbQTmbQTnbQTobQTpbQTqbQTrbQTsbQTtbQTubQTvbQTwbQTxbQTybQTzbQUabQUbbQUcbQU",
   "dbQUebQUfbQUgbQUhbQUibQUjbQUkbQUlbQUmbQUnbQUobQUpbQUqbQUrbQUsbQUtbQUubQUvbQUwbQUxBxQUzcXvbLE",
   "jbYndQVgcQVicQVkcWvbYbbWubWwcQVrdQVujWdbWebQWfcQWhcQWjcQWlcQWncQWpcQWrcQWtcQWvcQWxcQWzcQXbcQ",
   "XdcQXfcQXhcQXjcQXlcQXncQXpcQXrcQXtcQXvcQXxcQXzcQYbcQYdcQYfcQYhcQYjcQYlcQYncQYpcQYrcQYtcQYvcQ",
   "YxcQYzcQZbcQZdcQZfcQZhcQZjcQZlcQZncQZpcQZrcQZtcQZvcQZxcQZzjRAicRAkfRApBTYkCKYzcCKZbcCKZdcCKZ",
   "fcCKZhcCKZjcCKZlcCKZncCKZpcCKZrcCKZtcCKZvcCKZxcCKZzcCLAbcCLAdcCLAfcCLAhcCLAjcCLAlcCLAncCLApc",
   "CLAruCLBlcCLBncCLBpcCLBrcCLBtcCLBvcCLBxcCLBzcCLCbcCLCdcCLCfcCLChcCLCjcCLClFgCLHrcCLHtcCLHvcC",
   "LHxcCLHzcCLIbcCLIdeCLIhcCLIjcCLIlcCLIncCLIpcCLIrcCLItcCLIvcCLIxcCLIzcCLJbcCLJdcCLJfcCLJhcCLJ",
   "jcCLJlcCLJncCLJpcCLJrcCLJtcCLJvcCLJxcCLJzcCLKbcCLKdcCLKfcCLKhcCLKjcCLKlcCLKncCLKplCLLacCLLcc",
   "LEfbCLLfcCLLhcCLLjcCLLlcCLLnfCLLscXpdCLLxcCLLzeCLMdcCLMfcCLMhcCLMjcCLMlcCLMncCLMpcCLMrcCLMtc",
   "CLMvcXqbXgbXlbXwbXucZubYxbZtbCMWxbCLNhcCLNjcCLNlcCLNncCLNpcCLNrcCLNtcCLNvcCLMabYsbLFabCLOacC",
   "LOccXobCLOfeCLOjgCLOpcCLOrcCLOtcPvzCLPuBIhHLgbHLhbHLibHLjbHLkbHLlbHLmbHLnbHLobHLpbHLqbHLrbHL",
   "sbHLtbHLubHLvbHLwbHLxbHLybHLzbHMabHMbbHMcbHMdbHMebHMfbHMgbHMhbHMibHMjbHMkbHMlbHMmbHMnbHMobHM",
   "pbHMqbHMrbHMsbHMtbHMubHMvbHMwbHMxbHMybHMzbHNabHNbbHNcbHNdbHNebHNfbHNgbHNhbHNibHNjbHNkbHNlbHN",
   "mbHNnbHNobHNpbHNqbHNrbHNsbHNtbHNubHNvbHNwbHNxbHNybHNzbHOabHObbHOcbHOdbHOebHOfbHOgbHOhBEAoDRB",
   "qBOmDSRhbDSRibDSRjbDSRkbDSRlbDSRmbDSRnbDSRobDSRpbDSRqbDSRrbDSRsbDSRtbDSRubDSRvbDSRwbDSRxbDSR",
   "ybDSRzbDSSabDSSbbDSScbDSSdbDSSebDSSfbDSSgBVaDUNobDUNpbDUNqbDUNrbDUNsbDUNtbDUNubDUNvbDUNwbDUN",
   "xbDUNybDUNzbDUOabDUObbDUOcbDUOdbDUOebDUOfbDUOgbDUOhbDUOibDUOjbDUOkbDUOlbDUOmbDUOnbDUOobDUOpb",
   "DUOqbDUOrbDUOsbDUOtbDUOubDUOvbDUOwbDUOxbDUOybDUOzbDUPabDUPbFhDUUibDUUjbDUUkbDUUlbDUUmbDUUnbD",
   "UUobDUUpbDUUqbDUUrbDUUsbDUUtbDUUubDUUvbDUUwbDUUxbDUUybDUUzbDUVabDUVbbDUVcbDUVdbDUVebDUVfbDUV",
   "gbDUVhbDUVibDUVjbDUVkbDUVlbDUVmbDUVnbDUVobDUVpbDUVqbDUVrGbDVBrbDVBsbDVBtbDVBubDVBvbDVBwbDVBx",
   "bDVBybDVBzbDVCabDVCbcDVCdbDVCebDVCfbDVCgbDVChbDVCibDVCjbDVCkbDVClbDVCmbDVCnbDVCobDVCpbDVCqbD",
   "VCrcDVCtbDVCubDVCvbDVCwbDVCxbDVCybDVCzcDVDbbDVDcCQdDXUebDXUfbDXUgbDXUhbDXUibDXUjbDXUkbDXUlbD",
   "XUmbDXUnbDXUobDXUpbDXUqbDXUrbDXUsbDXUtbDXUubDXUvbDXUwbDXUxbDXUybDXUzbDXVabDXVbbDXVcbDXVdbDXV",
   "ebDXVfbDXVgbDXVhbDXVibDXVjbDXVkbDXVlbDXVmbDXVnbDXVobDXVpbDXVqbDXVrbDXVsbDXVtbDXVubDXVvbDXVwb",
   "DXVxbDXVybDXVzbDXWabDXWbbDXWcGcDYAybDYAzbDYBabDYBbbDYBcbDYBdbDYBebDYBfbDYBgbDYBhbDYBibDYBjbD",
   "YBkbDYBlbDYBmbDYBnbDYBobDYBpbDYBqbDYBrbDYBsbDYBtEGpECIibECIjbECIkbECIlbECImbECInbECIobECIpbE",
   "CIqbECIrbECIsbECItbECIubECIvbECIwbECIxbECIybECIzbECJabECJbbECJcbECJdbECJebECJfbECJgbECJhbECJ",
   "ibECJjbECJkbECJlbECJmbECJnBGJxFITkbFITlbFITmbFITnbFITobFITpbFITqbFITrbFITsbFITtbFITubFITvbFI",
   "TwbFITxbFITybFITzbFIUabFIUbbFIUcbFIUdbFIUebFIUfbFIUgbFIUhbFIUibFIUjbFIUkbFIUlbFIUmbFIUnbFIUo",
   "bFIUpBULlHDGcbHDGdbHDGebHDGfbHDGgbHDGhbHDGibHDGjbHDGkbHDGlbHDGmbHDGnbHDGobHDGpbHDGqbHDGrbHDG",
   "sbHDGtbHDGubHDGvbHDGwbHDGxbHDGybHDGzbHDHabHDHbbHDHcbHDHdbHDHebHDHfbHDHgbHDHhbHDHibHDHj"]

/-- Pairs of a code point and the different one it folds to. -/
def foldingPairs (previous : Nat) : List Nat → List (Nat × Nat)
  | gap :: target :: rest => (previous + gap, target) :: foldingPairs (previous + gap) rest
  | _ => []

def foldings : List (Nat × Nat) :=
  foldingPairs 0 (RangeTable.numerals 0 (foldingCode.flatMap String.toList))

/-- The code points that fold alike, their common folding first, from foldings in the order of
where they lead. -/
def caseOrbits : List (Nat × Nat) → List (List Nat)
  | [] => []
  | (n, target) :: rest =>
    match caseOrbits rest with
    | (t :: members) :: orbits =>
      if t = target then (t :: n :: members) :: orbits
      else [target, n] :: (t :: members) :: orbits
    | orbits => [target, n] :: orbits

/-- Every code point that has case variants, in order, with the variants. -/
def caseVariants : List (Nat × List Nat) :=
  let orbits := caseOrbits (foldings.mergeSort fun a b => a.2 ≤ b.2)
  let entries := orbits.flatMap fun orbit => orbit.map fun n => (n, orbit.filter (· != n))
  entries.mergeSort fun a b => a.1 ≤ b.1

end Loom.Unicode
