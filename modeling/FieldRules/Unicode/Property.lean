import FieldRules.Unicode.Runs

namespace FieldRules.Unicode

def alphabeticRuns : Runs := Runs.decode (
  "0Ā41ā1aĀ6ā1aĀ2fā1Āaā1Ā4ā1Ā5ā17Ā1ā1fĀ1ā1caĀ4ācĀeā5Ā7ā1Ā1ā1Ā56ā1Ā2aā5Ā1ā2Ā2ā4Ā1ā1Ā6ā1Ā1ā3Ā1ā1Ā1ā14" ++
  "Ā1ā53Ā1ā8bĀ8āa6Ā1ā26Ā2ā1Ā6ā29Ā27āeĀ1ā1Ā1ā2Ā1ā2Ā1ā1Ā8ā1bĀ4ā4Ā1dābĀ5ā38Ā1ā7Āeā66Ā1ā8Ā4ā8Ā4ā3Āaā3Ā2" ++
  "ā1Ā10ā30Ādā65Ā18ā21Ā9ā2Ā4ā1Ā5ā18Ā2ā13Ā13ā19Ā7ābĀ5ā18Ā1ā6Ā11ā2aĀaācĀ3ā7Ā6ā4cĀ1ā10Ā1ā3Ā4āfĀdā13Ā1ā" ++
  "8Ā2ā2Ā2ā16Ā1ā7Ā1ā1Ā3ā4Ā3ā8Ā2ā2Ā2ā2Ā1ā1Ā8ā1Ā4ā2Ā1ā5Ācā2Āaā1Ā4ā3Ā1ā6Ā4ā2Ā2ā16Ā1ā7Ā1ā2Ā1ā2Ā1ā2Ā4ā5Ā" ++
  "4ā2Ā2ā2Ā4ā1Ā7ā4Ā1ā1Ā11ā6Ābā3Ā1ā9Ā1ā3Ā1ā16Ā1ā7Ā1ā2Ā1ā5Ā3ā9Ā1ā3Ā1ā2Ā3ā1Āfā4Ā15ā4Ā4ā3Ā1ā8Ā2ā2Ā2ā16Ā" ++
  "1ā7Ā1ā2Ā1ā5Ā3ā8Ā2ā2Ā2ā2Ā9ā2Ā4ā2Ā1ā5Ādā1Ā10ā2Ā1ā6Ā3ā3Ā1ā4Ā3ā2Ā1ā1Ā1ā2Ā3ā2Ā3ā3Ā3ācĀ4ā5Ā3ā3Ā1ā3Ā3ā1" ++
  "Ā6ā1Ā28ādĀ1ā3Ā1ā17Ā1ā10Ā3ā8Ā1ā3Ā1ā3Ā8ā2Ā1ā3Ā2ā1Ā2ā4Ā1cā4Ā1ā8Ā1ā3Ā1ā17Ā1āaĀ1ā5Ā3ā8Ā1ā3Ā1ā3Ā8ā2Ā6ā" ++
  "2Ā1ā4Ādā3ĀcādĀ1ā3Ā1ā29Ā2ā8Ā1ā3Ā1ā3Ā1ā1Ā5ā4Ā7ā5Ā16ā6Ā1ā3Ā1ā12Ā3ā18Ā1ā9Ā1ā1Ā2ā7Ā8ā6Ā1ā1Ā1ā8Ā12ā2Ād" ++
  "ā3aĀ5ā7Ā6ā1Ā33ā2Ā1ā1Ā1ā5Ā1ā18Ā1ā1Ā1ā13Ā1ā3Ā2ā5Ā1ā1Ā6ā1Āeā4Ā20ā1Ā3fā8Ā1ā24Ā4ā13Ā4ā10Ā1ā24Ā43ā37Ā1" ++
  "ā1Ā2ā5Ā10ā40Āaā4Ā2ā26Ā1ā1Ā5ā1Ā2ā2bĀ1ā14dĀ1ā4Ā2ā7Ā1ā1Ā1ā4Ā2ā29Ā1ā4Ā2ā21Ā1ā4Ā2ā7Ā1ā1Ā1ā4Ā2āfĀ1ā39Ā" ++
  "1ā4Ā2ā43Ā25ā10Ā10ā56Ā2ā6Ā3ā26cĀ2ā11Ā1ā1aĀ5ā4bĀ3ābĀ7ā14Ābā15Ācā14ĀcādĀ1ā3Ā1ā2Ācā34Ā2ā13Āeā1Ā4ā1Ā4" ++
  "3ā59Ā7ā2bĀ5ā46Āaā1fĀ1ācĀ4ā9Ā17ā1eĀ2ā5Ābā2cĀ4ā1aĀ36ā1cĀ4ā3fĀ2ā14Ā32ā1Ā17ā2Ābā3Ā31ā34Ā1āfĀ1ā8Ā33ā2" ++
  "aĀ2ā4Āaā2cĀ1ābĀeā37Ā16ā3Āaā24Ā2ā9Ā7ā2bĀ2ā3Ā29ā4Ā1ā6Ā1ā2Ā3ā1Ā5āc0Ā27āeĀbā116Ā2ā6Ā2ā26Ā2ā6Ā2ā8Ā1ā1" ++
  "Ā1ā1Ā1ā1Ā1ā1fĀ2ā35Ā1ā7Ā1ā1Ā3ā3Ā1ā7Ā3ā4Ā2ā6Ā4ādĀ5ā3Ā1ā7Ā74ā1Ādā1Ā10ādĀ65ā1Ā4ā1Ā2āaĀ1ā1Ā3ā5Ā6ā1Ā1ā" ++
  "1Ā1ā1Ā1ā4Ā1ābĀ2ā4Ā5ā5Ā4ā1Ā11ā29Ā32dā34Ā716āe5Ā6ā4Ā3ā2Ācā26Ā1ā1Ā5ā1Ā2ā38Ā7ā1Ā10ā17Ā9ā7Ā1ā7Ā1ā7Ā1ā" ++
  "7Ā1ā7Ā1ā7Ā1ā7Ā1ā7Ā1ā20Ā2fā1Ā1d5ā3Ā19ā9Ā7ā5Ā2ā5Ā4ā56Ā6ā3Ā1ā5aĀ1ā4Ā5ā2bĀ1ā5eĀ11ā20Ā30ā10Ā200ā19c0Ā" ++
  "40ā568dĀ43ā2eĀ2ā10dĀ3ā10Āaā2Ā14ā2fĀ5ā8Ā3ā71Ā27ā9Ā2ā67Ā2ā40Ā5ā2Ā1ā1Ā1ā5Ā18ā14Ā1ā21Ā18ā34Ācā44Ā1ā1" ++
  "Ā2cā6Ā3ā1Ā1ā3Āaā21Ā5ā23Ādā1dĀ3ā33Ā1ācĀfā1Ā10ā10Āaā5Ā1ā37Ā9āeĀ12ā17Ā3ā45Ā1ā1Ā1ā1Ā18ā3Ā2ā10Ā2ā4Ābā" ++
  "6Ā2ā6Ā2ā6Ā9ā7Ā1ā7Ā1ā2bĀ1āeĀ6ā7bĀ15ā2ba4Ācā17Ā4ā31Ā2104ā16eĀ2ā6aĀ26ā7Ācā5Ā5ācĀ1ādĀ1ā5Ā1ā1Ā1ā2Ā1ā2" ++
  "Ā1ā6cĀ21ā16bĀ12ā40Ā2ā36Ā28ācĀ74ā5Ā1ā87Ā24ā1aĀ6ā1aĀbā59Ā3ā6Ā2ā6Ā2ā6Ā2ā3Ā23ācĀ1ā1aĀ1ā13Ā1ā2Ā1āfĀ2ā" ++
  "eĀ22ā7bĀ45ā35Ā10bā1dĀ3ā31Ā2fā20Ādā1eĀ5ā2bĀ5ā1eĀ2ā24Ā4ā8Ā1ā5Ā2aā9eĀ12ā24Ā4ā24Ā4ā28Ā8ā34ĀcābĀ1āfĀ1" ++
  "ā7Ā1ā2Ā1ābĀ1āfĀ1ā7Ā1ā2Ā43ā137Ā9ā16Āaā8Ā18ā6Ā1ā2aĀ1ā9Ā45ā6Ā2ā1Ā1ā2cĀ1ā2Ā3ā1Ā2ā17Āaā17Ā9ā1fĀ41ā13Ā" ++
  "1ā2Āaā16Āaā1aĀ46ā38Ā6ā2Ā40ā4Ā1ā2Ā5ā8Ā1ā3Ā1ā1dĀ2aā1dĀ3ā1dĀ23ā8Ā1ā1cĀ1bā36Āaā16Āaā13Ādā12Ā6eā49Ā37" ++
  "ā33Ādā33Ādā28Ā158ā2aĀ1ā2Ā3ā2Ā4eā1dĀaā1Ā8ā16Ā2aā12Ā2eā15Ā1bā17Ā9ā46Ā2bā5Āaā39Ā9ā1Ādā19Ā17ā33Ā11ā4" ++
  "Ā8ā23Ā3ā1Ā9ā40Ā1ā4Ā9ā2Āaā1Ā1ā1Ā23ā12Ā1ā22Ā2ā1Ā6ā4Ā3eā7Ā1ā1Ā1ā4Ā1āfĀ1āaĀ7ā39Ā17ā4Ā1ā8Ā2ā2Ā2ā16Ā1ā" ++
  "7Ā1ā2Ā1ā5Ā3ā8Ā2ā2Ā2ā2Ā3ā1Ā6ā1Ā5ā7Ā9cā42Ā1ā3Ā1ā4Ā14ā3Ā1eā42Ā2ā2Ā1ā1Āb8ā36Ā2ā7Ā19ā6Ā22ā3fĀ1ā1Ā3ā1Ā" ++
  "3bā36Ā2ā1Ā47ā1bĀ2āeĀ15ā7Āb9ā39Ā67ā40Ā1fā8Ā2ā1Ā2ā8Ā1ā2Ā1ā1eĀ1ā2Ā2ā2Ā2ā4Ā5dā8Ā2ā2eĀ2ā6Ā1ā1Ā1ā2Ā1bā" ++
  "33Ā2āaĀ11ā48Ā5ā1Ā12ā49Ā107ā9Ā1ā2dĀ1ā7Ā1ā1Ā31ā1eĀ2ā16Ā1āeĀ49ā7Ā1ā2Ā1ā2cĀ3ā1Ā1ā2Ā1ā3Ā1ā1Ā2ā2Ā18ā6Ā" ++
  "1ā2Ā1ā25Ā1ā2Ā1ā4Ā1ā1Ā147ā17Ā9ā11Ā1ā29Ā3ā3Ā6fā1Ā4fā39aĀ66ā6fĀ11āc4Āa4cā61Āfā430Ā11ā6Āfb9ā247Ā21b9" ++
  "ā239Ā7ā1fĀ11ā4fĀ11ā1eĀ12ā30Ā10ā4Ā1fā15Ā5ā13Ā2b0ā40Ā80ā4bĀ4ā39Ā7ā11Ā40ā2Ā1ā1Ācā2Āeā17f8Ā8ā4d6Ā2aā" ++
  "9Ā22e7ā4Ā1ā7Ā1ā2Ā1ā123Āfā1Ā1dā3Ā2ā1Āeā4Ā8ā18cĀ904ā6bĀ5ādĀ3ā9Ā7āaĀ4ā1Ā1761ā55Ā1ā47Ā1ā2Ā2ā1Ā2ā2Ā2ā" ++
  "4Ā1ācĀ1ā1Ā1ā7Ā1ā41Ā1ā4Ā2ā8Ā1ā7Ā1ā1cĀ1ā4Ā1ā5Ā1ā1Ā3ā7Ā1ā154Ā2ā19Ā1ā19Ā1ā1fĀ1ā19Ā1ā1fĀ1ā19Ā1ā1fĀ1ā1" ++
  "9Ā1ā1fĀ1ā19Ā1ā8Ā734ā1fĀ6ā6Ād5ā7Ā1ā11Ā2ā7Ā1ā2Ā1ā5Ā5ā3eĀ21ā1Ā70ā2dĀaā7Ā10ā1Ā141ā1eĀ12ā2cĀ1e4ā1cĀ2f" ++
  "4ā7Ā1ā4Ā1ā2Ā1āfĀ1āc5Ā3bā44Ā3ā1Ā3ā1Ā4b4ā4Ā1ā1bĀ1ā2Ā1ā1Ā2ā1Ā1āaĀ1ā4Ā1ā1Ā1ā1Ā6ā1Ā4ā1Ā1ā1Ā1ā1Ā1ā3Ā1ā" ++
  "2Ā1ā1Ā2ā1Ā1ā1Ā1ā1Ā1ā1Ā1ā1Ā1ā2Ā1ā1Ā2ā4Ā1ā7Ā1ā4Ā1ā4Ā1ā1Ā1āaĀ1ā11Ā5ā3Ā1ā5Ā1ā11Ā274ā1aĀ6ā1aĀ6ā1aĀe76" ++
  "āa6e0Ā20ā103aĀ6ādeĀ2ā1682Āeā1d31Āc1fā21eĀ5e2ā134bĀ5ā1060Ā")

def wordRuns : Runs := Runs.decode (
  "0Ā30āaĀ7ā1aĀ4ā1Ā1ā1aĀ2fā1Āaā1Ā4ā1Ā5ā17Ā1ā1fĀ1ā1caĀ4ācĀeā5Ā7ā1Ā1ā1Ā11ā75Ā1ā2Ā2ā4Ā1ā1Ā6ā1Ā1ā3Ā1ā1Ā" ++
  "1ā14Ā1ā53Ā1ā8bĀ1āadĀ1ā26Ā2ā1Ā6ā29Ā8ā2dĀ1ā1Ā1ā2Ā1ā2Ā1ā1Ā8ā1bĀ4ā4Ā1dābĀ5ā4aĀ4ā66Ā1ā8Ā2āaĀ1ā13Ā2ā1Ā" ++
  "10ā3bĀ2ā65Āeā36Ā4ā1Ā2ā1Ā2ā2eĀ12ā1cĀ4ābĀ5ā18Ā1ā6Ā9ā4aĀ1ā81Ā2āaĀ1ā13Ā1ā8Ā2ā2Ā2ā16Ā1ā7Ā1ā1Ā3ā4Ā2ā9Ā" ++
  "2ā2Ā2ā4Ā8ā1Ā4ā2Ā1ā5Ā2ācĀaā1Ā1ā1Ā2ā3Ā1ā6Ā4ā2Ā2ā16Ā1ā7Ā1ā2Ā1ā2Ā1ā2Ā2ā1Ā1ā5Ā4ā2Ā2ā3Ā3ā1Ā7ā4Ā1ā1Ā7ā1" ++
  "0Ābā3Ā1ā9Ā1ā3Ā1ā16Ā1ā7Ā1ā2Ā1ā5Ā2āaĀ1ā3Ā1ā3Ā2ā1Āfā4Ā2āaĀ9ā7Ā1ā3Ā1ā8Ā2ā2Ā2ā16Ā1ā7Ā1ā2Ā1ā5Ā2ā9Ā2ā2Ā" ++
  "2ā3Ā7ā3Ā4ā2Ā1ā5Ā2āaĀ1ā1Ā10ā2Ā1ā6Ā3ā3Ā1ā4Ā3ā2Ā1ā1Ā1ā2Ā3ā2Ā3ā3Ā3ācĀ4ā5Ā3ā3Ā1ā4Ā2ā1Ā6ā1ĀeāaĀ10ādĀ1ā" ++
  "3Ā1ā17Ā1ā10Ā2ā9Ā1ā3Ā1ā4Ā7ā2Ā1ā3Ā2ā1Ā2ā4Ā2āaĀ10ā4Ā1ā8Ā1ā3Ā1ā17Ā1āaĀ1ā5Ā2ā9Ā1ā3Ā1ā4Ā7ā2Ā6ā2Ā1ā4Ā2ā" ++
  "aĀ1ā3ĀcādĀ1ā3Ā1ā33Ā1ā3Ā1ā5Ā5ā4Ā7ā5Ā2āaĀaā6Ā1ā3Ā1ā12Ā3ā18Ā1ā9Ā1ā1Ā2ā7Ā3ā1Ā4ā6Ā1ā1Ā1ā8Ā6āaĀ2ā2Ādā3" ++
  "aĀ5āfĀ1āaĀ27ā2Ā1ā1Ā1ā5Ā1ā18Ā1ā1Ā1ā17Ā2ā5Ā1ā1Ā1ā7Ā1āaĀ2ā4Ā20ā1Ā17ā2Ā6āaĀbā1Ā1ā1Ā1ā1Ā4āaĀ1ā24Ā4ā14" ++
  "Ā1ā12Ā1ā24Ā9ā1Ā39ā4aĀ6ā4eĀ2ā26Ā1ā1Ā5ā1Ā2ā2bĀ1ā14dĀ1ā4Ā2ā7Ā1ā1Ā1ā4Ā2ā29Ā1ā4Ā2ā21Ā1ā4Ā2ā7Ā1ā1Ā1ā4Ā" ++
  "2āfĀ1ā39Ā1ā4Ā2ā43Ā2ā3Ā20ā10Ā10ā56Ā2ā6Ā3ā26cĀ2ā11Ā1ā1aĀ5ā4bĀ3ābĀ7ā16Ā9ā16Ābā14ĀcādĀ1ā3Ā1ā2Ācā54Ā3" ++
  "ā1Ā4ā2Ā2āaĀ21ā3Ā1ābĀ6ā59Ā7ā2bĀ5ā46Āaā1fĀ1ācĀ4ācĀaā28Ā2ā5Ābā2cĀ4ā1aĀ6āaĀ26ā1cĀ4ā3fĀ1ā1dĀ2ābĀ6āaĀd" ++
  "ā1Ā8ā1fĀ31ā4dĀ3āaĀ11ā9Ācā74Ācā38Ā8āaĀ3ā31Ā2ā9Ā7ā2bĀ2ā3Ā10ā3Ā1ā27Ā5ā216Ā2ā6Ā2ā26Ā2ā6Ā2ā8Ā1ā1Ā1ā1Ā" ++
  "1ā1Ā1ā1fĀ2ā35Ā1ā7Ā1ā1Ā3ā3Ā1ā7Ā3ā4Ā2ā6Ā4ādĀ5ā3Ā1ā7Āfā2Ā31ā2Ā13ā1Ā1cā1Ādā1Ā10ādĀ33ā21Ā11ā1Ā4ā1Ā2āa" ++
  "Ā1ā1Ā3ā5Ā6ā1Ā1ā1Ā1ā1Ā1ā4Ā1ābĀ2ā4Ā5ā5Ā4ā1Ā11ā29Ā32dā34Ā716āe5Ā6ā9Ācā26Ā1ā1Ā5ā1Ā2ā38Ā7ā1Āfā18Ā9ā7Ā" ++
  "1ā7Ā1ā7Ā1ā7Ā1ā7Ā1ā7Ā1ā7Ā1ā7Ā1ā20Ā2fā1Ā1d5ā3Ā19āfĀ1ā5Ā2ā5Ā4ā56Ā2ā2Ā2ā3Ā1ā5aĀ1ā4Ā5ā2bĀ1ā5eĀ11ā20Ā3" ++
  "0ā10Ā200ā19c0Ā40ā568dĀ43ā2eĀ2ā10dĀ3ā1cĀ14ā33Ā1āaĀ1ā73Ā25ā9Ā2ā67Ā2ā40Ā5ā2Ā1ā1Ā1ā5Ā18ā36Ā4ā1Ā13ā34" ++
  "Ācā46ĀaāaĀ6ā18Ā3ā1Ā1ā31Ā2ā24Ācā1dĀ3ā41ĀeābĀ6ā1fĀ1ā37Ā9āeĀ2āaĀ6ā17Ā3ā49Ā18ā3Ā2ā10Ā2ā5Āaā6Ā2ā6Ā2ā6" ++
  "Ā9ā7Ā1ā7Ā1ā2bĀ1āeĀ6ā7bĀ1ā2Ā2āaĀ6ā2ba4Ācā17Ā4ā31Ā2104ā16eĀ2ā6aĀ26ā7Ācā5Ā5ācĀ1ādĀ1ā5Ā1ā1Ā1ā2Ā1ā2Ā1" ++
  "ā6cĀ21ā16bĀ12ā40Ā2ā36Ā28ācĀ4ā10Ā10ā10Ā3ā2Ā18ā3Ā20ā5Ā1ā87Ā13āaĀ7ā1aĀ4ā1Ā1ā1aĀbā59Ā3ā6Ā2ā6Ā2ā6Ā2ā3" ++
  "Ā23ācĀ1ā1aĀ1ā13Ā1ā2Ā1āfĀ2āeĀ22ā7bĀ45ā35Ā88ā1Ā82ā1dĀ3ā31Āfā1Ā1fā20Ādā1eĀ5ā2bĀ5ā1eĀ2ā24Ā4ā8Ā1ā5Ā2a" ++
  "ā9eĀ2āaĀ6ā24Ā4ā24Ā4ā28Ā8ā34ĀcābĀ1āfĀ1ā7Ā1ā2Ā1ābĀ1āfĀ1ā7Ā1ā2Ā43ā137Ā9ā16Āaā8Ā18ā6Ā1ā2aĀ1ā9Ā45ā6Ā2" ++
  "ā1Ā1ā2cĀ1ā2Ā3ā1Ā2ā17Āaā17Ā9ā1fĀ41ā13Ā1ā2Āaā16Āaā1aĀ46ā38Ā6ā2Ā40ā4Ā1ā2Ā5ā8Ā1ā3Ā1ā1dĀ2ā3Ā4ā1Ā20ā1d" ++
  "Ā3ā1dĀ23ā8Ā1ā1eĀ19ā36Āaā16Āaā13Ādā12Ā6eā49Ā37ā33Ādā33Ādā28Ā8āaĀ146ā2aĀ1ā2Ā3ā2Ā4bā20Āaā1Ā8ā21Ā1fā" ++
  "16Ā2aā15Ā1bā17Ā9ā47Ā1fā10Ā9ā3cĀ7ā1Ādā19Ā7āaĀ6ā35Ā1āaĀ4ā4Ā8ā24Ā2ā1Ā9ā45Ā4ā4Ā1ādĀ1ā1Ā23ā12Ā1ā25Ā6ā" ++
  "4Ā3eā7Ā1ā1Ā1ā4Ā1āfĀ1āaĀ7ā3bĀ5āaĀ6ā4Ā1ā8Ā2ā2Ā2ā16Ā1ā7Ā1ā2Ā1ā5Ā1āaĀ2ā2Ā2ā3Ā2ā1Ā6ā1Ā5ā7Ā2ā7Ā3ā5Ā8bā" ++
  "4bĀ5āaĀ4ā4Ā1eā46Ā1ā1Ā8āaĀa6ā36Ā2ā9Ā17ā6Ā22ā41Ā3ā1ĀbāaĀ26ā39Ā7āaĀ36ā1bĀ2āfĀ4āaĀ6ā7Āb9ā3bĀ65ā4aĀ15" ++
  "ā8Ā2ā1Ā2ā8Ā1ā2Ā1ā1eĀ1ā2Ā2ā9ĀcāaĀ46ā8Ā2ā2eĀ2ā8Ā1ā2Ā1bā3fĀ8ā1Ā8ā4aĀ3ā1Ā12ā49Ā107ā9Ā1ā2dĀ1ā9ĀfāaĀ18" ++
  "ā1eĀ2ā16Ā1āeĀ49ā7Ā1ā2Ā1ā2cĀ3ā1Ā1ā2Ā1ā9Ā8āaĀ6ā6Ā1ā2Ā1ā25Ā1ā2Ā1ā6Ā7āaĀ136ā17Ā9ā11Ā1ā29Ā3ā5ĀdāaĀ56ā" ++
  "1Ā4fā39aĀ66ā6fĀ11āc4Āa4cā61Āfā430Ā10ā16Āfaaā247Ā21b9ā239Ā7ā1fĀ1āaĀ6ā4fĀ1āaĀ6ā1eĀ2ā5Ābā37Ā9ā4Ācāa" ++
  "Ā9ā15Ā5ā13Ā2b0ā40Ā80ā4bĀ4ā39Ā7ā11Ā40ā2Ā1ā2Ābā2Āeā17f8Ā8ā4d6Ā2aā9Ā22e7ā4Ā1ā7Ā1ā2Ā1ā123Āfā1Ā1dā3Ā2" ++
  "ā1Āeā4Ā8ā18cĀ904ā6bĀ5ādĀ3ā9Ā7āaĀ3ā2Ā1261ā2eĀ2ā17Ā21eā5Ā3ā6Ā8ā8Ā2ā7Ā1eā4Ā94ā3Ā1bbā55Ā1ā47Ā1ā2Ā2ā1" ++
  "Ā2ā2Ā2ā4Ā1ācĀ1ā1Ā1ā7Ā1ā41Ā1ā4Ā2ā8Ā1ā7Ā1ā1cĀ1ā4Ā1ā5Ā1ā1Ā3ā7Ā1ā154Ā2ā19Ā1ā19Ā1ā1fĀ1ā19Ā1ā1fĀ1ā19Ā1" ++
  "ā1fĀ1ā19Ā1ā1fĀ1ā19Ā1ā8Ā2ā32Ā200ā37Ā4ā32Ā8ā1Āeā1Ā16ā5Ā1āfĀ450ā1fĀ6ā6Ād5ā7Ā1ā11Ā2ā7Ā1ā2Ā1ā5Ā5ā3eĀ2" ++
  "1ā1Ā70ā2dĀ3āeĀ2āaĀ4ā1Ā141ā1fĀ11ā3aĀ1d6ā2aĀ2e6ā7Ā1ā4Ā1ā2Ā1āfĀ1āc5Ābā7Ā29ā4cĀ4āaĀ4a6ā4Ā1ā1bĀ1ā2Ā1ā" ++
  "1Ā2ā1Ā1āaĀ1ā4Ā1ā1Ā1ā1Ā6ā1Ā4ā1Ā1ā1Ā1ā1Ā1ā3Ā1ā2Ā1ā1Ā2ā1Ā1ā1Ā1ā1Ā1ā1Ā1ā1Ā1ā2Ā1ā1Ā2ā4Ā1ā7Ā1ā4Ā1ā4Ā1ā" ++
  "1Ā1āaĀ1ā11Ā5ā3Ā1ā5Ā1ā11Ā274ā1aĀ6ā1aĀ6ā1aĀa66āaĀ406āa6e0Ā20ā103aĀ6ādeĀ2ā1682Āeā1d31Āc1fā21eĀ5e2ā1" ++
  "34bĀ5ā1060Āadd50āf0Ā")

def graphemeExtendRuns : Runs := Runs.decode (
  "0Ā300ā70Ā113ā7Ā107ā2dĀ1ā1Ā1ā2Ā1ā2Ā1ā1Ā48ābĀ30ā15Ā10ā1Ā65ā7Ā2ā6Ā2ā2Ā1ā4Ā23ā1Ā1eā1bĀ5bābĀ3aā9Ā9ā1Ā" ++
  "18ā4Ā1ā9Ā1ā3Ā1ā5Ā2bā3Ā3cā8Ā2aā18Ā1ā20Ā37ā1Ā1ā1Ā4ā8Ā4ā1Ā3ā7Āaā2Ā1dā1Ā3aā1Ā1ā1Ā2ā4Ā8ā1Ā9ā1Āaā2Ā1aā" ++
  "1Ā2ā2Ā39ā1Ā4ā2Ā4ā2Ā2ā3Ā3ā1Ā1eā2Ā3ā1Ābā2Ā39ā1Ā4ā5Ā1ā2Ā4ā1Ā14ā2Ā16ā6Ā1ā1Ā3aā1Ā1ā2Ā1ā4Ā8ā1Ā7ā3Āaā2Ā" ++
  "1eā1Ā3bā1Ā1ā1Ācā1Ā9ā1Ā28ā1Ā3ā1Ā37ā1Ā1ā3Ā5ā3Ā1ā4Ā7ā2Ābā2Ā1dā1Ā3aā1Ā2ā1Ā2ā1Ā3ā1Ā5ā2Ā7ā2Ābā2Ā1cā2Ā3" ++
  "9ā2Ā1ā1Ā2ā4Ā8ā1Ā9ā1Āaā2Ā1dā1Ā48ā1Ā4ā1Ā2ā3Ā1ā1Ā8ā1Ā51ā1Ā2ā7Ācā8Ā62ā1Ā2ā9Ābā7Ā49ā2Ā1bā1Ā1ā1Ā1ā1Ā37" ++
  "āeĀ1ā5Ā1ā2Ā5ābĀ1ā24Ā9ā1Ā66ā4Ā1ā6Ā1ā2Ā2ā2Ā19ā2Ā4ā3Ā10ā4Ādā1Ā2ā2Ā6ā1Āfā1Ā2bfā3Ā3b2ā3Ā1dā2Ā1eā2Ā1eā" ++
  "2Ā40ā2Ā1ā7Ā8ā1Ā2ābĀ9ā1Ā2dā3Ā1ā1Ā75ā2Ā22ā1Ā76ā3Ā4ā2Ā9ā1Ā6ā3Ādbā2Ā2ā1Ā3aā1Ā1ā7Ā1ā1Ā1ā1Ā2ā8Ā6āaĀ2ā1" ++
  "Ā30ā1fĀ31ā4Ā30ā7Ā1ā1Ā5ā1Ā28ā9Ācā2Ā20ā4Ā2ā2Ā1ā3Ā38ā1Ā1ā2Ā3ā1Ā1ā3Ā3aā8Ā2ā2Ā98ā3Ā1ādĀ1ā7Ā4ā1Ā6ā1Ā3ā" ++
  "2Āc6ā40Ā20cā1Āc3ā21Ābfeā3Ā8dā1Ā60ā20Ā22aā6Ā69ā2Ā75d4ā4Ā1āaĀ20ā2Ā50ā2Ā110ā1Ā3ā1Ā4ā1Ā19ā2Ā5ā1Ā97ā2" ++
  "Ā1aā12Ādā1Ā26ā8Ā19ābĀ2eā3Ā30ā1Ā2ā4Ā2ā2Ā27ā1Ā43ā6Ā2ā2Ā2ā2Ācā1Ā8ā1Ā2fā1Ā33ā1Ā1ā3Ā2ā2Ā5ā2Ā1ā1Ā2aā2Ā" ++
  "8ā1Āeeā1Ā2ā1Ā4ā1Ā4f30ā1Ā2e1ā10Ā10ā10Ā16eā2Ā25dā1Āe2ā1Ā95ā5Ā686ā3Ā1ā2Ā5ā4Ā28ā3Ā4ā1Āa5ā2Ā23dā4Ā183" ++
  "ā2Ā50ā3Ā46ābĀ31ā4Ā7bā1Ā36āfĀ29ā1Ā2ā2Āaā3Ā31ā4Ā2ā2Ā7ā1Ā3dā3Ā24ā5Ā1ā8Ā3eā1Ācā2Ā34ā9Āaā4Ā2ā1Ā5fā3Ā2" ++
  "ā1Ā1ā2Ā6ā1Ā2ā1Ā9dā1Ā3ā8Ā15ā2Ā39ā2Ā1ā1Ā1ā1Ā16ā1Āeā7Ā3ā5Āc3ā8Ā2ā3Ā1ā1Ā17ā1Ā51ā1Ā2ā6Ā1ā1Ā2ā1Ā1ā2Ā1ā" ++
  "2Āebā1Ā2ā4Ā6ā2Ā1ā2Ā1bā2Ā55ā8Ā2ā1Ā1ā2Ā6aā1Ā1ā1Ā2ā6Ā1ā1Ā65ā3Ā2ā4Ā1ā5Ā103ā9Ā1ā2Āf5ā1Āaā2Ā1ā1Ā4ā1Ā90" ++
  "ā4Ā2ā2Ā4ā1Ā20āaĀ28ā6Ā2ā4Ā8ā1Ā9ā6Ā2ā3Ā2eādĀ1ā2Ā196ā7Ā1ā6Ā1ā1Ā52ā16Ā2ā7Ā1ā2Ā1ā2Ā7aā6Ā3ā1Ā1ā2Ā1ā7Ā1" ++
  "ā1Ā48ā2Ā3ā1Ā1ā1Ā15bā2Ābā2Ā34ā5Ā5ā1Ā1ā1Ā14fdā1Ā6āfĀ369aā5Ā3bā7Ā418ā1Ā3fā4Ā51ā1Ā4cb8ā2Ā1261ā2eĀ2ā1" ++
  "7Ā21eā1Ā1ā3Ā4ā5Ā8ā8Ā2ā7Ā1eā4Ā94ā3Ā7bbā37Ā4ā32Ā8ā1Āeā1Ā16ā5Ā1āfĀ550ā7Ā1ā11Ā2ā7Ā1ā2Ā1ā5Ā64ā1Āa0ā7Ā" ++
  "177ā1Ā3dā4Ā1fcā4Ā3e0ā7Ā6dā7Āc16d5ā60Ā80āf0Ā")

def lowercaseRuns : Runs := Runs.decode (
  "0Ā61ā1aĀ2fā1Āaā1Ā4ā1Ā24ā18Ā1ā8Ā1ā1Ā1ā1Ā1ā1Ā1ā1Ā1ā1Ā1ā1Ā1ā1Ā1ā1Ā1ā1Ā1ā1Ā1ā1Ā1ā1Ā1ā1Ā1ā1Ā1ā1Ā1ā1Ā1" ++
  "ā1Ā1ā1Ā1ā1Ā1ā1Ā1ā1Ā1ā1Ā1ā1Ā1ā1Ā1ā1Ā1ā1Ā1ā1Ā1ā2Ā1ā1Ā1ā1Ā1ā1Ā1ā1Ā1ā1Ā1ā1Ā1ā1Ā1ā2Ā1ā1Ā1ā1Ā1ā1Ā1ā1Ā1" ++
  "ā1Ā1ā1Ā1ā1Ā1ā1Ā1ā1Ā1ā1Ā1ā1Ā1ā1Ā1ā1Ā1ā1Ā1ā1Ā1ā1Ā1ā1Ā1ā1Ā1ā1Ā1ā1Ā1ā1Ā1ā1Ā1ā1Ā2ā1Ā1ā1Ā1ā3Ā2ā1Ā1ā1Ā2" ++
  "ā1Ā3ā2Ā4ā1Ā2ā1Ā3ā3Ā2ā1Ā2ā1Ā1ā1Ā1ā1Ā2ā1Ā1ā2Ā1ā1Ā2ā1Ā3ā1Ā1ā1Ā2ā2Ā2ā3Ā6ā1Ā2ā1Ā2ā1Ā1ā1Ā1ā1Ā1ā1Ā1ā1Ā1" ++
  "ā1Ā1ā1Ā1ā1Ā1ā2Ā1ā1Ā1ā1Ā1ā1Ā1ā1Ā1ā1Ā1ā1Ā1ā1Ā1ā1Ā1ā2Ā2ā1Ā1ā1Ā3ā1Ā1ā1Ā1ā1Ā1ā1Ā1ā1Ā1ā1Ā1ā1Ā1ā1Ā1ā1Ā1" ++
  "ā1Ā1ā1Ā1ā1Ā1ā1Ā1ā1Ā1ā1Ā1ā1Ā1ā1Ā1ā1Ā1ā1Ā1ā1Ā1ā1Ā1ā1Ā1ā1Ā1ā1Ā1ā1Ā1ā1Ā1ā1Ā1ā1Ā1ā1Ā1ā7Ā2ā1Ā2ā2Ā1ā1Ā4" ++
  "ā1Ā1ā1Ā1ā1Ā1ā1Ā1ā45Ā1ā24Ā7ā2Ā1eā5Ā60ā1Ā2bā1Ā1ā1Ā3ā1Ā2ā4Ā12ā1Ā1bā23Ā1ā2Ā3ā3Ā1ā1Ā1ā1Ā1ā1Ā1ā1Ā1ā1Ā1" ++
  "ā1Ā1ā1Ā1ā1Ā1ā1Ā1ā1Ā1ā1Ā1ā5Ā1ā1Ā2ā1Ā2ā2Ā33ā30Ā1ā1Ā1ā1Ā1ā1Ā1ā1Ā1ā1Ā1ā1Ā1ā1Ā1ā1Ā1ā1Ā1ā1Ā1ā1Ā1ā1Ā1ā1" ++
  "Ā1ā1Ā1ā1Ā1ā1Ā1ā1Ā9ā1Ā1ā1Ā1ā1Ā1ā1Ā1ā1Ā1ā1Ā1ā1Ā1ā1Ā1ā1Ā1ā1Ā1ā1Ā1ā1Ā1ā1Ā1ā1Ā1ā1Ā1ā1Ā1ā1Ā1ā1Ā1ā1Ā1ā1" ++
  "Ā1ā1Ā1ā1Ā1ā1Ā1ā1Ā1ā1Ā1ā1Ā1ā1Ā2ā1Ā1ā1Ā1ā1Ā1ā1Ā1ā1Ā1ā1Ā1ā2Ā1ā1Ā1ā1Ā1ā1Ā1ā1Ā1ā1Ā1ā1Ā1ā1Ā1ā1Ā1ā1Ā1ā1" ++
  "Ā1ā1Ā1ā1Ā1ā1Ā1ā1Ā1ā1Ā1ā1Ā1ā1Ā1ā1Ā1ā1Ā1ā1Ā1ā1Ā1ā1Ā1ā1Ā1ā1Ā1ā1Ā1ā1Ā1ā1Ā1ā1Ā1ā1Ā1ā1Ā1ā1Ā1ā1Ā1ā1Ā1ā1" ++
  "Ā1ā1Ā1ā1Ā1ā1Ā1ā1Ā1ā1Ā1ā1Ā1ā1Ā1ā1Ā1ā1Ā1ā1Ā1ā1Ā1ā1Ā1ā1Ā1ā1Ā30ā29Āb47ā2bĀ1ā4Ā2f8ā6Ā882ā9Ā77āc0Ā41ā1" ++
  "Ā1ā1Ā1ā1Ā1ā1Ā1ā1Ā1ā1Ā1ā1Ā1ā1Ā1ā1Ā1ā1Ā1ā1Ā1ā1Ā1ā1Ā1ā1Ā1ā1Ā1ā1Ā1ā1Ā1ā1Ā1ā1Ā1ā1Ā1ā1Ā1ā1Ā1ā1Ā1ā1Ā1ā1" ++
  "Ā1ā1Ā1ā1Ā1ā1Ā1ā1Ā1ā1Ā1ā1Ā1ā1Ā1ā1Ā1ā1Ā1ā1Ā1ā1Ā1ā1Ā1ā1Ā1ā1Ā1ā1Ā1ā1Ā1ā1Ā1ā1Ā1ā1Ā1ā1Ā1ā1Ā1ā1Ā1ā1Ā1ā1" ++
  "Ā1ā1Ā1ā1Ā1ā1Ā1ā1Ā1ā1Ā1ā1Ā1ā1Ā1ā1Ā1ā1Ā1ā1Ā1ā1Ā1ā1Ā1ā1Ā1ā1Ā1ā1Ā1ā1Ā1ā1Ā1ā1Ā1ā1Ā1ā1Ā1ā1Ā1ā1Ā1ā1Ā1ā1" ++
  "Ā1ā1Ā1ā9Ā1ā1Ā1ā1Ā1ā1Ā1ā1Ā1ā1Ā1ā1Ā1ā1Ā1ā1Ā1ā1Ā1ā1Ā1ā1Ā1ā1Ā1ā1Ā1ā1Ā1ā1Ā1ā1Ā1ā1Ā1ā1Ā1ā1Ā1ā1Ā1ā1Ā1ā1" ++
  "Ā1ā1Ā1ā1Ā1ā1Ā1ā1Ā1ā1Ā1ā1Ā1ā1Ā1ā1Ā1ā1Ā1ā1Ā1ā1Ā1ā1Ā1ā1Ā1ā1Ā1ā1Ā1ā1Ā1ā1Ā1ā1Ā1ā1Ā1ā1Ā1ā1Ā1ā1Ā1ā1Ā1ā1" ++
  "Ā1ā1Ā1ā1Ā1ā9Ā8ā6Āaā8Ā8ā8Ā8ā6Āaā8Ā8ā8Ā8āeĀ2ā8Ā8ā8Ā8ā8Ā8ā5Ā1ā2Ā6ā1Ā3ā3Ā1ā2Ā8ā4Ā2ā2Ā8ā8Āaā3Ā1ā2Ā79ā" ++
  "1Ādā1Ā10ādĀ6dā1Ā3ā2Ā3ā1Ā1bā1Ā4ā1Ā4ā1Ā2ā2Ā8ā4Ā4ā1Ā21ā10Ā4ā1Ā34bā1aĀ746ā30Ā1ā1Ā3ā2Ā1ā1Ā1ā1Ā1ā1Ā4ā1" ++
  "Ā1ā2Ā1ā8Ā3ā1Ā1ā1Ā1ā1Ā1ā1Ā1ā1Ā1ā1Ā1ā1Ā1ā1Ā1ā1Ā1ā1Ā1ā1Ā1ā1Ā1ā1Ā1ā1Ā1ā1Ā1ā1Ā1ā1Ā1ā1Ā1ā1Ā1ā1Ā1ā1Ā1ā1" ++
  "Ā1ā1Ā1ā1Ā1ā1Ā1ā1Ā1ā1Ā1ā1Ā1ā1Ā1ā1Ā1ā1Ā1ā1Ā1ā1Ā1ā1Ā1ā1Ā1ā1Ā1ā1Ā1ā1Ā1ā1Ā1ā1Ā1ā1Ā1ā1Ā1ā1Ā1ā1Ā1ā1Ā1ā1" ++
  "Ā1ā1Ā1ā1Ā1ā1Ā1ā2Ā7ā1Ā1ā1Ā4ā1Ācā26Ā1ā1Ā5ā1Ā7913ā1Ā1ā1Ā1ā1Ā1ā1Ā1ā1Ā1ā1Ā1ā1Ā1ā1Ā1ā1Ā1ā1Ā1ā1Ā1ā1Ā1ā1" ++
  "Ā1ā1Ā1ā1Ā1ā1Ā1ā1Ā1ā1Ā1ā1Ā1ā1Ā1ā1Ā1ā1Ā1ā1Ā13ā1Ā1ā1Ā1ā1Ā1ā1Ā1ā1Ā1ā1Ā1ā1Ā1ā1Ā1ā1Ā1ā1Ā1ā1Ā1ā1Ā1ā1Ā1ā" ++
  "3Ā85ā1Ā1ā1Ā1ā1Ā1ā1Ā1ā1Ā1ā1Ā1ā3Ā1ā1Ā1ā1Ā1ā1Ā1ā1Ā1ā1Ā1ā1Ā1ā1Ā1ā1Ā1ā1Ā1ā1Ā1ā1Ā1ā1Ā1ā1Ā1ā1Ā1ā1Ā1ā1Ā1" ++
  "ā1Ā1ā1Ā1ā1Ā1ā1Ā1ā1Ā1ā1Ā1ā1Ā1ā1Ā1ā1Ā1ā1Ā1ā1Ā1ā1Ā1ā1Ā1ā1Ā1āaĀ1ā1Ā1ā1Ā2ā1Ā1ā1Ā1ā1Ā1ā1Ā1ā1Ā4ā1Ā1ā1Ā2" ++
  "ā1Ā1ā3Ā1ā1Ā1ā1Ā1ā1Ā1ā1Ā1ā1Ā1ā1Ā1ā1Ā1ā1Ā1ā1Ā1ā1Ā5ā1Ā5ā1Ā1ā1Ā1ā1Ā1ā1Ā1ā1Ā1ā1Ā1ā1Ā1ā1Ā4ā1Ā1ā1Ā6ā1Ā1" ++
  "ā1Ā1ā1Ā1ā1Ā1ā1Ā18ā3Ā1ā1Ā1ā3Ā335ā2bĀ1āeĀ6ā50Ā4f40ā7Ācā5Ā429ā1aĀ4cdā28Ā88ā24Ā9bābĀ1āfĀ1ā7Ā1ā2Ā1c3ā" ++
  "1Ā2ā3Ā1ā2aĀ1ā9Ā505ā33Ābcdā20Ā5580ā20Ā659aā1aĀ1aā7Ā1ā12Ā1aā1aĀ1aā4Ā1ā1Ā1ā7Ā1ābĀ1aā1aĀ1aā1aĀ1aā1aĀ" ++
  "1aā1aĀ1aā1aĀ1aā1aĀ1aā1aĀ1aā1aĀ1aā1cĀ1cā19Ā1ā6Ā1aā19Ā1ā6Ā1aā19Ā1ā6Ā1aā19Ā1ā6Ā1aā19Ā1ā6Ā1ā1Ā734āaĀ" ++
  "1ā14Ā6ā6Ā105ā3eĀ8b4ā22Ā")

def uppercaseRuns : Runs := Runs.decode (
  "0Ā41ā1aĀ65ā17Ā1ā7Ā21ā1Ā1ā1Ā1ā1Ā1ā1Ā1ā1Ā1ā1Ā1ā1Ā1ā1Ā1ā1Ā1ā1Ā1ā1Ā1ā1Ā1ā1Ā1ā1Ā1ā1Ā1ā1Ā1ā1Ā1ā1Ā1ā1Ā1" ++
  "ā1Ā1ā1Ā1ā1Ā1ā1Ā1ā1Ā1ā1Ā1ā1Ā1ā1Ā1ā1Ā2ā1Ā1ā1Ā1ā1Ā1ā1Ā1ā1Ā1ā1Ā1ā1Ā1ā1Ā2ā1Ā1ā1Ā1ā1Ā1ā1Ā1ā1Ā1ā1Ā1ā1Ā1" ++
  "ā1Ā1ā1Ā1ā1Ā1ā1Ā1ā1Ā1ā1Ā1ā1Ā1ā1Ā1ā1Ā1ā1Ā1ā1Ā1ā1Ā1ā1Ā1ā1Ā1ā1Ā1ā1Ā1ā2Ā1ā1Ā1ā1Ā3ā2Ā1ā1Ā1ā2Ā1ā3Ā2ā4Ā1" ++
  "ā2Ā1ā3Ā3ā2Ā1ā2Ā1ā1Ā1ā1Ā1ā2Ā1ā1Ā2ā1Ā1ā2Ā1ā3Ā1ā1Ā1ā2Ā3ā1Ā7ā1Ā2ā1Ā2ā1Ā2ā1Ā1ā1Ā1ā1Ā1ā1Ā1ā1Ā1ā1Ā1ā1Ā1" ++
  "ā1Ā2ā1Ā1ā1Ā1ā1Ā1ā1Ā1ā1Ā1ā1Ā1ā1Ā1ā1Ā1ā1Ā2ā1Ā2ā1Ā1ā3Ā1ā1Ā1ā1Ā1ā1Ā1ā1Ā1ā1Ā1ā1Ā1ā1Ā1ā1Ā1ā1Ā1ā1Ā1ā1Ā1" ++
  "ā1Ā1ā1Ā1ā1Ā1ā1Ā1ā1Ā1ā1Ā1ā1Ā1ā1Ā1ā1Ā1ā1Ā1ā1Ā1ā1Ā1ā1Ā1ā1Ā1ā1Ā1ā1Ā1ā1Ā1ā1Ā7ā2Ā1ā2Ā2ā1Ā1ā4Ā1ā1Ā1ā1Ā1" ++
  "ā1Ā1ā1Ā121ā1Ā1ā1Ā3ā1Ā8ā1Ā6ā1Ā1ā3Ā1ā1Ā1ā2Ā1ā11Ā1ā9Ā23ā1Ā2ā3Ā3ā1Ā1ā1Ā1ā1Ā1ā1Ā1ā1Ā1ā1Ā1ā1Ā1ā1Ā1ā1Ā1" ++
  "ā1Ā1ā1Ā1ā1Ā5ā1Ā2ā1Ā1ā2Ā2ā33Ā30ā1Ā1ā1Ā1ā1Ā1ā1Ā1ā1Ā1ā1Ā1ā1Ā1ā1Ā1ā1Ā1ā1Ā1ā1Ā1ā1Ā1ā1Ā1ā1Ā1ā1Ā1ā1Ā1ā1" ++
  "Ā9ā1Ā1ā1Ā1ā1Ā1ā1Ā1ā1Ā1ā1Ā1ā1Ā1ā1Ā1ā1Ā1ā1Ā1ā1Ā1ā1Ā1ā1Ā1ā1Ā1ā1Ā1ā1Ā1ā1Ā1ā1Ā1ā1Ā1ā1Ā1ā1Ā1ā1Ā1ā1Ā1ā1" ++
  "Ā1ā1Ā1ā1Ā1ā1Ā1ā2Ā1ā1Ā1ā1Ā1ā1Ā1ā1Ā1ā1Ā1ā1Ā2ā1Ā1ā1Ā1ā1Ā1ā1Ā1ā1Ā1ā1Ā1ā1Ā1ā1Ā1ā1Ā1ā1Ā1ā1Ā1ā1Ā1ā1Ā1ā1" ++
  "Ā1ā1Ā1ā1Ā1ā1Ā1ā1Ā1ā1Ā1ā1Ā1ā1Ā1ā1Ā1ā1Ā1ā1Ā1ā1Ā1ā1Ā1ā1Ā1ā1Ā1ā1Ā1ā1Ā1ā1Ā1ā1Ā1ā1Ā1ā1Ā1ā1Ā1ā1Ā1ā1Ā1ā1" ++
  "Ā1ā1Ā1ā1Ā1ā1Ā1ā1Ā1ā1Ā1ā1Ā1ā1Ā1ā1Ā1ā1Ā1ā1Ā2ā26Āb49ā26Ā1ā1Ā5ā1Ā2d2ā56Ā89aā2bĀ2ā3Ā140ā1Ā1ā1Ā1ā1Ā1ā1" ++
  "Ā1ā1Ā1ā1Ā1ā1Ā1ā1Ā1ā1Ā1ā1Ā1ā1Ā1ā1Ā1ā1Ā1ā1Ā1ā1Ā1ā1Ā1ā1Ā1ā1Ā1ā1Ā1ā1Ā1ā1Ā1ā1Ā1ā1Ā1ā1Ā1ā1Ā1ā1Ā1ā1Ā1ā1" ++
  "Ā1ā1Ā1ā1Ā1ā1Ā1ā1Ā1ā1Ā1ā1Ā1ā1Ā1ā1Ā1ā1Ā1ā1Ā1ā1Ā1ā1Ā1ā1Ā1ā1Ā1ā1Ā1ā1Ā1ā1Ā1ā1Ā1ā1Ā1ā1Ā1ā1Ā1ā1Ā1ā1Ā1ā1" ++
  "Ā1ā1Ā1ā1Ā1ā1Ā1ā1Ā1ā1Ā1ā1Ā1ā1Ā1ā1Ā1ā1Ā1ā1Ā1ā1Ā1ā1Ā1ā1Ā1ā1Ā1ā1Ā1ā1Ā1ā1Ā1ā1Ā1ā1Ā1ā1Ā1ā1Ā1ā1Ā1ā1Ā9ā1" ++
  "Ā1ā1Ā1ā1Ā1ā1Ā1ā1Ā1ā1Ā1ā1Ā1ā1Ā1ā1Ā1ā1Ā1ā1Ā1ā1Ā1ā1Ā1ā1Ā1ā1Ā1ā1Ā1ā1Ā1ā1Ā1ā1Ā1ā1Ā1ā1Ā1ā1Ā1ā1Ā1ā1Ā1ā1" ++
  "Ā1ā1Ā1ā1Ā1ā1Ā1ā1Ā1ā1Ā1ā1Ā1ā1Ā1ā1Ā1ā1Ā1ā1Ā1ā1Ā1ā1Ā1ā1Ā1ā1Ā1ā1Ā1ā1Ā1ā1Ā1ā1Ā1ā1Ā1ā1Ā1ā1Ā1ā1Ā1ā1Ā1ā1" ++
  "Ā9ā8Ā8ā6Āaā8Ā8ā8Ā8ā6Ābā1Ā1ā1Ā1ā1Ā1ā1Ā8ā8Ā48ā4Ācā4Ācā4Ācā5Ābā4Ā106ā1Ā4ā1Ā3ā3Ā2ā3Ā2ā1Ā3ā5Ā6ā1Ā1ā1Ā" ++
  "1ā1Ā1ā4Ā2ā4Āaā2Ā5ā1Ā1aā10Ā13ā1Ā332ā1aĀ730ā30Ā30ā1Ā1ā3Ā2ā1Ā1ā1Ā1ā1Ā1ā4Ā1ā1Ā2ā1Ā8ā3Ā1ā1Ā1ā1Ā1ā1Ā1ā" ++
  "1Ā1ā1Ā1ā1Ā1ā1Ā1ā1Ā1ā1Ā1ā1Ā1ā1Ā1ā1Ā1ā1Ā1ā1Ā1ā1Ā1ā1Ā1ā1Ā1ā1Ā1ā1Ā1ā1Ā1ā1Ā1ā1Ā1ā1Ā1ā1Ā1ā1Ā1ā1Ā1ā1Ā1ā" ++
  "1Ā1ā1Ā1ā1Ā1ā1Ā1ā1Ā1ā1Ā1ā1Ā1ā1Ā1ā1Ā1ā1Ā1ā1Ā1ā1Ā1ā1Ā1ā1Ā1ā1Ā1ā1Ā1ā1Ā1ā1Ā1ā1Ā1ā1Ā1ā1Ā1ā1Ā8ā1Ā1ā1Ā4ā" ++
  "1Ā794dā1Ā1ā1Ā1ā1Ā1ā1Ā1ā1Ā1ā1Ā1ā1Ā1ā1Ā1ā1Ā1ā1Ā1ā1Ā1ā1Ā1ā1Ā1ā1Ā1ā1Ā1ā1Ā1ā1Ā1ā1Ā1ā1Ā1ā1Ā1ā1Ā1ā1Ā1ā1" ++
  "Ā13ā1Ā1ā1Ā1ā1Ā1ā1Ā1ā1Ā1ā1Ā1ā1Ā1ā1Ā1ā1Ā1ā1Ā1ā1Ā1ā1Ā1ā1Ā1ā1Ā87ā1Ā1ā1Ā1ā1Ā1ā1Ā1ā1Ā1ā1Ā1ā1Ā3ā1Ā1ā1Ā1" ++
  "ā1Ā1ā1Ā1ā1Ā1ā1Ā1ā1Ā1ā1Ā1ā1Ā1ā1Ā1ā1Ā1ā1Ā1ā1Ā1ā1Ā1ā1Ā1ā1Ā1ā1Ā1ā1Ā1ā1Ā1ā1Ā1ā1Ā1ā1Ā1ā1Ā1ā1Ā1ā1Ā1ā1Ā1" ++
  "ā1Ā1ā1Ā1ā1Ā1ā1Ā1ā1Āaā1Ā1ā1Ā1ā2Ā1ā1Ā1ā1Ā1ā1Ā1ā1Ā4ā1Ā1ā1Ā2ā1Ā1ā1Ā3ā1Ā1ā1Ā1ā1Ā1ā1Ā1ā1Ā1ā1Ā1ā1Ā1ā1Ā1" ++
  "ā1Ā1ā1Ā1ā5Ā1ā5Ā1ā1Ā1ā1Ā1ā1Ā1ā1Ā1ā1Ā1ā1Ā1ā1Ā1ā4Ā1ā1Ā6ā1Ā5ā1Ā1ā1Ā1cā1Ā572bā1aĀ4c5ā28Ā88ā24Ā9cābĀ1ā" ++
  "fĀ1ā7Ā1ā2Ā6eaā33Ābedā20Ā5580ā20Ā65a0ā1aĀ1aā1aĀ1aā1aĀ1aā1Ā1ā2Ā2ā1Ā2ā2Ā2ā4Ā1ā8Ā1aā1aĀ1aā2Ā1ā4Ā2ā8Ā" ++
  "1ā7Ā1bā2Ā1ā4Ā1ā5Ā1ā1Ā3ā7Ā1bā1aĀ1aā1aĀ1aā1aĀ1aā1aĀ1aā1aĀ1aā1aĀ1eā19Ā21ā19Ā21ā19Ā21ā19Ā21ā19Ā21ā1Ā" ++
  "1135ā22Ā80eā1aĀ6ā1aĀ6ā1aĀ")

def lowerChangingRuns : Runs := Runs.decode (
  "0Ā41ā1aĀ65ā17Ā1ā7Ā21ā1Ā1ā1Ā1ā1Ā1ā1Ā1ā1Ā1ā1Ā1ā1Ā1ā1Ā1ā1Ā1ā1Ā1ā1Ā1ā1Ā1ā1Ā1ā1Ā1ā1Ā1ā1Ā1ā1Ā1ā1Ā1ā1Ā1" ++
  "ā1Ā1ā1Ā1ā1Ā1ā1Ā1ā1Ā1ā1Ā1ā1Ā1ā1Ā1ā1Ā2ā1Ā1ā1Ā1ā1Ā1ā1Ā1ā1Ā1ā1Ā1ā1Ā1ā1Ā2ā1Ā1ā1Ā1ā1Ā1ā1Ā1ā1Ā1ā1Ā1ā1Ā1" ++
  "ā1Ā1ā1Ā1ā1Ā1ā1Ā1ā1Ā1ā1Ā1ā1Ā1ā1Ā1ā1Ā1ā1Ā1ā1Ā1ā1Ā1ā1Ā1ā1Ā1ā1Ā1ā1Ā1ā2Ā1ā1Ā1ā1Ā3ā2Ā1ā1Ā1ā2Ā1ā3Ā2ā4Ā1" ++
  "ā2Ā1ā3Ā3ā2Ā1ā2Ā1ā1Ā1ā1Ā1ā2Ā1ā1Ā2ā1Ā1ā2Ā1ā3Ā1ā1Ā1ā2Ā3ā1Ā7ā2Ā1ā2Ā1ā2Ā1ā1Ā1ā1Ā1ā1Ā1ā1Ā1ā1Ā1ā1Ā1ā1Ā1" ++
  "ā1Ā2ā1Ā1ā1Ā1ā1Ā1ā1Ā1ā1Ā1ā1Ā1ā1Ā1ā1Ā1ā1Ā2ā2Ā1ā1Ā1ā3Ā1ā1Ā1ā1Ā1ā1Ā1ā1Ā1ā1Ā1ā1Ā1ā1Ā1ā1Ā1ā1Ā1ā1Ā1ā1Ā1" ++
  "ā1Ā1ā1Ā1ā1Ā1ā1Ā1ā1Ā1ā1Ā1ā1Ā1ā1Ā1ā1Ā1ā1Ā1ā1Ā1ā1Ā1ā1Ā1ā1Ā1ā1Ā1ā1Ā1ā1Ā1ā1Ā7ā2Ā1ā2Ā2ā1Ā1ā4Ā1ā1Ā1ā1Ā1" ++
  "ā1Ā1ā1Ā121ā1Ā1ā1Ā3ā1Ā8ā1Ā6ā1Ā1ā3Ā1ā1Ā1ā2Ā1ā11Ā1ā9Ā23ā1Ā8ā1Ā1ā1Ā1ā1Ā1ā1Ā1ā1Ā1ā1Ā1ā1Ā1ā1Ā1ā1Ā1ā1Ā1" ++
  "ā1Ā1ā1Ā5ā1Ā2ā1Ā1ā2Ā2ā33Ā30ā1Ā1ā1Ā1ā1Ā1ā1Ā1ā1Ā1ā1Ā1ā1Ā1ā1Ā1ā1Ā1ā1Ā1ā1Ā1ā1Ā1ā1Ā1ā1Ā1ā1Ā1ā1Ā1ā1Ā9ā1" ++
  "Ā1ā1Ā1ā1Ā1ā1Ā1ā1Ā1ā1Ā1ā1Ā1ā1Ā1ā1Ā1ā1Ā1ā1Ā1ā1Ā1ā1Ā1ā1Ā1ā1Ā1ā1Ā1ā1Ā1ā1Ā1ā1Ā1ā1Ā1ā1Ā1ā1Ā1ā1Ā1ā1Ā1ā1" ++
  "Ā1ā1Ā1ā1Ā1ā2Ā1ā1Ā1ā1Ā1ā1Ā1ā1Ā1ā1Ā1ā1Ā2ā1Ā1ā1Ā1ā1Ā1ā1Ā1ā1Ā1ā1Ā1ā1Ā1ā1Ā1ā1Ā1ā1Ā1ā1Ā1ā1Ā1ā1Ā1ā1Ā1ā1" ++
  "Ā1ā1Ā1ā1Ā1ā1Ā1ā1Ā1ā1Ā1ā1Ā1ā1Ā1ā1Ā1ā1Ā1ā1Ā1ā1Ā1ā1Ā1ā1Ā1ā1Ā1ā1Ā1ā1Ā1ā1Ā1ā1Ā1ā1Ā1ā1Ā1ā1Ā1ā1Ā1ā1Ā1ā1" ++
  "Ā1ā1Ā1ā1Ā1ā1Ā1ā1Ā1ā1Ā1ā1Ā1ā1Ā1ā1Ā1ā1Ā2ā26Āb49ā26Ā1ā1Ā5ā1Ā2d2ā56Ā89aā2bĀ2ā3Ā140ā1Ā1ā1Ā1ā1Ā1ā1Ā1ā1" ++
  "Ā1ā1Ā1ā1Ā1ā1Ā1ā1Ā1ā1Ā1ā1Ā1ā1Ā1ā1Ā1ā1Ā1ā1Ā1ā1Ā1ā1Ā1ā1Ā1ā1Ā1ā1Ā1ā1Ā1ā1Ā1ā1Ā1ā1Ā1ā1Ā1ā1Ā1ā1Ā1ā1Ā1ā1" ++
  "Ā1ā1Ā1ā1Ā1ā1Ā1ā1Ā1ā1Ā1ā1Ā1ā1Ā1ā1Ā1ā1Ā1ā1Ā1ā1Ā1ā1Ā1ā1Ā1ā1Ā1ā1Ā1ā1Ā1ā1Ā1ā1Ā1ā1Ā1ā1Ā1ā1Ā1ā1Ā1ā1Ā1ā1" ++
  "Ā1ā1Ā1ā1Ā1ā1Ā1ā1Ā1ā1Ā1ā1Ā1ā1Ā1ā1Ā1ā1Ā1ā1Ā1ā1Ā1ā1Ā1ā1Ā1ā1Ā1ā1Ā1ā1Ā1ā1Ā1ā1Ā1ā1Ā1ā1Ā1ā1Ā1ā1Ā9ā1Ā1ā1" ++
  "Ā1ā1Ā1ā1Ā1ā1Ā1ā1Ā1ā1Ā1ā1Ā1ā1Ā1ā1Ā1ā1Ā1ā1Ā1ā1Ā1ā1Ā1ā1Ā1ā1Ā1ā1Ā1ā1Ā1ā1Ā1ā1Ā1ā1Ā1ā1Ā1ā1Ā1ā1Ā1ā1Ā1ā1" ++
  "Ā1ā1Ā1ā1Ā1ā1Ā1ā1Ā1ā1Ā1ā1Ā1ā1Ā1ā1Ā1ā1Ā1ā1Ā1ā1Ā1ā1Ā1ā1Ā1ā1Ā1ā1Ā1ā1Ā1ā1Ā1ā1Ā1ā1Ā1ā1Ā1ā1Ā1ā1Ā1ā1Ā9ā8" ++
  "Ā8ā6Āaā8Ā8ā8Ā8ā6Ābā1Ā1ā1Ā1ā1Ā1ā1Ā8ā8Ā18ā8Ā8ā8Ā8ā8Ā8ā5Ābā5Ābā4Ācā5Ābā5Ā129ā1Ā3ā2Ā6ā1Ā2dā10Ā13ā1Ā3" ++
  "32ā1aĀ730ā30Ā30ā1Ā1ā3Ā2ā1Ā1ā1Ā1ā1Ā1ā4Ā1ā1Ā2ā1Ā8ā3Ā1ā1Ā1ā1Ā1ā1Ā1ā1Ā1ā1Ā1ā1Ā1ā1Ā1ā1Ā1ā1Ā1ā1Ā1ā1Ā1ā" ++
  "1Ā1ā1Ā1ā1Ā1ā1Ā1ā1Ā1ā1Ā1ā1Ā1ā1Ā1ā1Ā1ā1Ā1ā1Ā1ā1Ā1ā1Ā1ā1Ā1ā1Ā1ā1Ā1ā1Ā1ā1Ā1ā1Ā1ā1Ā1ā1Ā1ā1Ā1ā1Ā1ā1Ā1ā" ++
  "1Ā1ā1Ā1ā1Ā1ā1Ā1ā1Ā1ā1Ā1ā1Ā1ā1Ā1ā1Ā1ā1Ā1ā1Ā1ā1Ā1ā1Ā1ā1Ā8ā1Ā1ā1Ā4ā1Ā794dā1Ā1ā1Ā1ā1Ā1ā1Ā1ā1Ā1ā1Ā1ā1" ++
  "Ā1ā1Ā1ā1Ā1ā1Ā1ā1Ā1ā1Ā1ā1Ā1ā1Ā1ā1Ā1ā1Ā1ā1Ā1ā1Ā1ā1Ā1ā1Ā1ā1Ā1ā1Ā1ā1Ā13ā1Ā1ā1Ā1ā1Ā1ā1Ā1ā1Ā1ā1Ā1ā1Ā1ā" ++
  "1Ā1ā1Ā1ā1Ā1ā1Ā1ā1Ā1ā1Ā1ā1Ā87ā1Ā1ā1Ā1ā1Ā1ā1Ā1ā1Ā1ā1Ā1ā1Ā3ā1Ā1ā1Ā1ā1Ā1ā1Ā1ā1Ā1ā1Ā1ā1Ā1ā1Ā1ā1Ā1ā1Ā1" ++
  "ā1Ā1ā1Ā1ā1Ā1ā1Ā1ā1Ā1ā1Ā1ā1Ā1ā1Ā1ā1Ā1ā1Ā1ā1Ā1ā1Ā1ā1Ā1ā1Ā1ā1Ā1ā1Ā1ā1Ā1ā1Ā1ā1Ā1ā1Ā1ā1Āaā1Ā1ā1Ā1ā2Ā1" ++
  "ā1Ā1ā1Ā1ā1Ā1ā1Ā4ā1Ā1ā1Ā2ā1Ā1ā1Ā3ā1Ā1ā1Ā1ā1Ā1ā1Ā1ā1Ā1ā1Ā1ā1Ā1ā1Ā1ā1Ā1ā1Ā1ā5Ā1ā5Ā1ā1Ā1ā1Ā1ā1Ā1ā1Ā1" ++
  "ā1Ā1ā1Ā1ā1Ā1ā4Ā1ā1Ā6ā1Ā5ā1Ā1ā1Ā1cā1Ā572bā1aĀ4c5ā28Ā88ā24Ā9cābĀ1āfĀ1ā7Ā1ā2Ā6eaā33Ābedā20Ā5580ā20Ā" ++
  "7aa0ā22Ā")

def upperChangingRuns : Runs := Runs.decode (
  "0Ā61ā1aĀ3aā1Ā29ā18Ā1ā8Ā1ā1Ā1ā1Ā1ā1Ā1ā1Ā1ā1Ā1ā1Ā1ā1Ā1ā1Ā1ā1Ā1ā1Ā1ā1Ā1ā1Ā1ā1Ā1ā1Ā1ā1Ā1ā1Ā1ā1Ā1ā1Ā1" ++
  "ā1Ā1ā1Ā1ā1Ā1ā1Ā1ā1Ā1ā1Ā1ā1Ā1ā1Ā1ā1Ā1ā1Ā2ā1Ā1ā1Ā1ā1Ā1ā1Ā1ā1Ā1ā1Ā1ā1Ā1ā2Ā1ā1Ā1ā1Ā1ā1Ā1ā1Ā1ā1Ā1ā1Ā1" ++
  "ā1Ā1ā1Ā1ā1Ā1ā1Ā1ā1Ā1ā1Ā1ā1Ā1ā1Ā1ā1Ā1ā1Ā1ā1Ā1ā1Ā1ā1Ā1ā1Ā1ā1Ā1ā1Ā1ā1Ā2ā1Ā1ā1Ā1ā3Ā2ā1Ā1ā1Ā2ā1Ā3ā1Ā5" ++
  "ā1Ā2ā1Ā3ā2Ā3ā1Ā2ā1Ā1ā1Ā1ā1Ā2ā1Ā4ā1Ā2ā1Ā3ā1Ā1ā1Ā2ā1Ā3ā1Ā1ā1Ā5ā2Ā1ā2Ā1ā2Ā1ā1Ā1ā1Ā1ā1Ā1ā1Ā1ā1Ā1ā1Ā1" ++
  "ā1Ā1ā2Ā1ā1Ā1ā1Ā1ā1Ā1ā1Ā1ā1Ā1ā1Ā1ā1Ā1ā1Ā1ā2Ā1ā2Ā1ā1Ā3ā1Ā1ā1Ā1ā1Ā1ā1Ā1ā1Ā1ā1Ā1ā1Ā1ā1Ā1ā1Ā1ā1Ā1ā1Ā1" ++
  "ā1Ā1ā1Ā1ā1Ā1ā1Ā1ā1Ā1ā1Ā1ā1Ā1ā1Ā1ā1Ā3ā1Ā1ā1Ā1ā1Ā1ā1Ā1ā1Ā1ā1Ā1ā1Ā1ā1Ā1ā1Ā8ā1Ā2ā2Ā1ā1Ā4ā1Ā1ā1Ā1ā1Ā1" ++
  "ā1Ā1ā6Ā1ā2Ā1ā1Ā1ā2Ā3ā2Ā1ā1Ā1ā2Ā1ā5Ā2ā1Ā1ā2Ā2ā1Ā7ā1Ā2ā1Ā1ā2Ā3ā6Ā5ā1Āaā2Āa6ā1Ā2bā1Ā1ā1Ā3ā1Ā3ā3Ā12ā" ++
  "1Ā1bā23Ā1ā2Ā3ā3Ā1ā1Ā1ā1Ā1ā1Ā1ā1Ā1ā1Ā1ā1Ā1ā1Ā1ā1Ā1ā1Ā1ā1Ā1ā1Ā1ā5Ā1ā1Ā2ā1Ā2ā1Ā34ā30Ā1ā1Ā1ā1Ā1ā1Ā1ā" ++
  "1Ā1ā1Ā1ā1Ā1ā1Ā1ā1Ā1ā1Ā1ā1Ā1ā1Ā1ā1Ā1ā1Ā1ā1Ā1ā1Ā1ā1Ā1ā1Ā9ā1Ā1ā1Ā1ā1Ā1ā1Ā1ā1Ā1ā1Ā1ā1Ā1ā1Ā1ā1Ā1ā1Ā1ā" ++
  "1Ā1ā1Ā1ā1Ā1ā1Ā1ā1Ā1ā1Ā1ā1Ā1ā1Ā1ā1Ā1ā1Ā1ā1Ā1ā1Ā1ā1Ā1ā1Ā1ā1Ā1ā1Ā1ā1Ā2ā1Ā1ā1Ā1ā1Ā1ā1Ā1ā1Ā1ā1Ā1ā2Ā1ā" ++
  "1Ā1ā1Ā1ā1Ā1ā1Ā1ā1Ā1ā1Ā1ā1Ā1ā1Ā1ā1Ā1ā1Ā1ā1Ā1ā1Ā1ā1Ā1ā1Ā1ā1Ā1ā1Ā1ā1Ā1ā1Ā1ā1Ā1ā1Ā1ā1Ā1ā1Ā1ā1Ā1ā1Ā1ā" ++
  "1Ā1ā1Ā1ā1Ā1ā1Ā1ā1Ā1ā1Ā1ā1Ā1ā1Ā1ā1Ā1ā1Ā1ā1Ā1ā1Ā1ā1Ā1ā1Ā1ā1Ā1ā1Ā1ā1Ā1ā1Ā1ā1Ā1ā1Ā1ā1Ā1ā1Ā1ā1Ā1ā1Ā31" ++
  "ā27Āb48ā2bĀ2ā3Ā2f8ā6Ā882ā9Āf0ā1Ā3ā1Ā10ā1Ā72ā1Ā1ā1Ā1ā1Ā1ā1Ā1ā1Ā1ā1Ā1ā1Ā1ā1Ā1ā1Ā1ā1Ā1ā1Ā1ā1Ā1ā1Ā1ā" ++
  "1Ā1ā1Ā1ā1Ā1ā1Ā1ā1Ā1ā1Ā1ā1Ā1ā1Ā1ā1Ā1ā1Ā1ā1Ā1ā1Ā1ā1Ā1ā1Ā1ā1Ā1ā1Ā1ā1Ā1ā1Ā1ā1Ā1ā1Ā1ā1Ā1ā1Ā1ā1Ā1ā1Ā1ā" ++
  "1Ā1ā1Ā1ā1Ā1ā1Ā1ā1Ā1ā1Ā1ā1Ā1ā1Ā1ā1Ā1ā1Ā1ā1Ā1ā1Ā1ā1Ā1ā1Ā1ā1Ā1ā1Ā1ā1Ā1ā1Ā1ā1Ā1ā1Ā1ā1Ā1ā1Ā1ā1Ā1ā1Ā1ā" ++
  "1Ā1ā1Ā1ā1Ā1ā1Ā1ā1Ā1ā1Ā1ā1Ā1ā1Ā1ā1Ā1ā1Ā1ā1Ā1ā1Ā1ā1Ā1ā7Ā5ā1Ā1ā1Ā1ā1Ā1ā1Ā1ā1Ā1ā1Ā1ā1Ā1ā1Ā1ā1Ā1ā1Ā1ā" ++
  "1Ā1ā1Ā1ā1Ā1ā1Ā1ā1Ā1ā1Ā1ā1Ā1ā1Ā1ā1Ā1ā1Ā1ā1Ā1ā1Ā1ā1Ā1ā1Ā1ā1Ā1ā1Ā1ā1Ā1ā1Ā1ā1Ā1ā1Ā1ā1Ā1ā1Ā1ā1Ā1ā1Ā1ā" ++
  "1Ā1ā1Ā1ā1Ā1ā1Ā1ā1Ā1ā1Ā1ā1Ā1ā1Ā1ā1Ā1ā1Ā1ā1Ā1ā1Ā1ā1Ā1ā9Ā8ā6Āaā8Ā8ā8Ā8ā6Āaā8Ā8ā8Ā8āeĀ2ā35Ā1ā2Ā4ā1Ā1" ++
  "ā1Ā3ā3Ā1ā2Ā4ā1Ā3ā4Ā2ā2Ā8ā8Āaā3Ā1ā2Ā4ā1Ā151ā1Ā21ā10Ā4ā1Ā34bā1aĀ746ā30Ā1ā1Ā3ā2Ā1ā1Ā1ā1Ā1ā1Ā6ā1Ā2ā1" ++
  "Āaā1Ā1ā1Ā1ā1Ā1ā1Ā1ā1Ā1ā1Ā1ā1Ā1ā1Ā1ā1Ā1ā1Ā1ā1Ā1ā1Ā1ā1Ā1ā1Ā1ā1Ā1ā1Ā1ā1Ā1ā1Ā1ā1Ā1ā1Ā1ā1Ā1ā1Ā1ā1Ā1ā1" ++
  "Ā1ā1Ā1ā1Ā1ā1Ā1ā1Ā1ā1Ā1ā1Ā1ā1Ā1ā1Ā1ā1Ā1ā1Ā1ā1Ā1ā1Ā1ā1Ā1ā1Ā1ā1Ā1ā1Ā1ā1Ā1ā1Ā1ā1Ā1ā1Ā1ā1Ā1ā1Ā1ā1Ā1ā1" ++
  "Ā1ā1Ā1ā1Ā8ā1Ā1ā1Ā4ā1Ācā26Ā1ā1Ā5ā1Ā7913ā1Ā1ā1Ā1ā1Ā1ā1Ā1ā1Ā1ā1Ā1ā1Ā1ā1Ā1ā1Ā1ā1Ā1ā1Ā1ā1Ā1ā1Ā1ā1Ā1ā1" ++
  "Ā1ā1Ā1ā1Ā1ā1Ā1ā1Ā1ā1Ā1ā1Ā1ā1Ā1ā1Ā13ā1Ā1ā1Ā1ā1Ā1ā1Ā1ā1Ā1ā1Ā1ā1Ā1ā1Ā1ā1Ā1ā1Ā1ā1Ā1ā1Ā1ā1Ā1ā1Ā87ā1Ā1" ++
  "ā1Ā1ā1Ā1ā1Ā1ā1Ā1ā1Ā1ā1Ā3ā1Ā1ā1Ā1ā1Ā1ā1Ā1ā1Ā1ā1Ā1ā1Ā1ā1Ā1ā1Ā1ā1Ā1ā1Ā1ā1Ā1ā1Ā1ā1Ā1ā1Ā1ā1Ā1ā1Ā1ā1Ā1" ++
  "ā1Ā1ā1Ā1ā1Ā1ā1Ā1ā1Ā1ā1Ā1ā1Ā1ā1Ā1ā1Ā1ā1Ā1ā1Ā1ā1Ā1ā1Āaā1Ā1ā1Ā2ā1Ā1ā1Ā1ā1Ā1ā1Ā1ā1Ā4ā1Ā4ā1Ā1ā2Ā2ā1Ā1" ++
  "ā1Ā1ā1Ā1ā1Ā1ā1Ā1ā1Ā1ā1Ā1ā1Ā1ā1Ā1ā1Ābā1Ā1ā1Ā1ā1Ā1ā1Ā1ā1Ā1ā1Ā1ā1Ā1ā1Ā4ā1Ā1ā1Ā6ā1Ā5ā1Ā1ā1Ā1cā1Ā35cā" ++
  "1Ā1cā50Ā4f40ā7Ācā5Ā429ā1aĀ4cdā28Ā88ā24Ā9bābĀ1āfĀ1ā7Ā1ā2Ā703ā33Ābcdā20Ā5580ā20Ā7aa2ā22Ā")

def isAlphabetic (c : Char) : Bool := alphabeticRuns.contains c

def isWord (c : Char) : Bool := wordRuns.contains c

def isGraphemeExtend (c : Char) : Bool := graphemeExtendRuns.contains c

def isLowercaseText (s : String) : Bool := s.toList.all fun c => !lowerChangingRuns.contains c

def isUppercaseText (s : String) : Bool := s.toList.all fun c => !upperChangingRuns.contains c

end FieldRules.Unicode
