import FieldRules.Unicode.Property

namespace FieldRules.Unicode

def whiteSpaceRuns : Runs := Runs.decode (
  "0Ā9ā5Ā12ā1Ā64ā1Ā1aā1Ā15dfā1Ā97fābĀ1dā2Ā5ā1Ā2fā1Āfa0ā1Ā")

def hexDigitRuns : Runs := Runs.decode (
  "0Ā30āaĀ7ā6Ā1aā6Āfea9āaĀ7ā6Ā1aā6Ā")

def asciiHexDigitRuns : Runs := Runs.decode (
  "0Ā30āaĀ7ā6Ā1aā6Ā")

def emojiRuns : Runs := Runs.decode (
  "0Ā23ā1Ā6ā1Ā5āaĀ6fā1Ā4ā1Ā1f8dā1Ācā1Ād8ā1Ā16ā1Ā5aā6Āfā2Ā16fā2Ācā1Āa6ā1Ā19ābĀ4ā3Āc7ā1Āe7ā2Āaā1Ā9ā1Ā" ++
  "3aā4Ā1ā5Ā9ā1Ā2ā1Ā2ā2Ā2ā1Ā4ā1Ā2ā1Ā1ā2Ā2ā1Ā3ā1Ā3ā2Ā8ā3Ā5ā1Ā1ā1Ā5ācĀbā2Ā2ā1Ā1ā2Ā1ā1Ā12ā1Ā2ā2Ā12ā6Ā1" ++
  "ā1Ā1ā2Ā3ā2Ā5ā1Ā2ā2Ā4ā2Ābā2Ā5ā2Ā2ā1Ā5ā2Ā1ā1Ā1ā2Ā14ā2Ā5ā6Ā1ā4Ā2ā1Ā4ā1Ā2ā1Ā2ā6Ā1ā1Ā2ā1Ā1ā1Ā1ā1Ā6ā1Ā" ++
  "3ā1Ā6ā1Āaā2Āfā1Ā2ā1Ā4ā1Ā1ā1Ā4ā3Ā1ā1Ābā2Ā30ā3Ā9ā1Āeā1Āeā1Ā174ā2Ā1cfā3Ā13ā2Ā33ā1Ā4ā1Ā4daā1Ācā1Ā259" ++
  "ā1Ā1ā1Ā1bd6aā1Ācaā1Āa0ā2Ācā2Āeā1Ā2āaĀ4bā1aĀ1ā2Ā17ā1Ā14ā1Ā2ā9Ā15ā2Āaeā22Ā2ā70Ā2ā2Ā1ā3Ā2ā53Ā2ā3Ā1ā" ++
  "107Ā1ā3fĀbā6Ā1ā18Ā7ā2Ā2ā8Ācā1Ā2ā4Ā2ā1Ā4ā2Ādā2Ā2ā1Ā8ā2Ā9ā1Ā5ā3Ācā3Ā8ā3Ā2ā1Ā1ā1Ā4ā1Ā6ā1Ā3ā1Ā6ā56Ā3" ++
  "0ā46Ā5ā8Ā2ā3Ā4āaĀ3ā1Ā1ā2Ā3ā1Ā2āaĀe3ācĀ4ā1Ā11bā2fĀ1āaĀ1āb9Ā70ādĀ3ā9Ā7ā2eĀ1ā7Ā8āeĀ4ā9Ā7ā9Ā")

def mathRuns : Runs := Runs.decode (
  "0Ā2bā1Ā10ā3Ā1fā1Ā1dā1Ā1ā1Ā2dā1Ā4ā1Ā25ā1Ā1fā1Ā2d8ā3Ā2ā1Ā1aā2Ā2ā3Ā20fā3Ā1a0dā1Ā1bā3Ābā1Ā3ā1Ādā1Āeā" ++
  "4Ā15ā5Ābā5Ā41ādĀ4ā1Ā3ā2Ā4ā5Ā12ā1Ā4ā1Ā2āaĀ1ā1Ā2ā6Ā6ā1Ā3ā2Ā2ā2Ā1ā3Ā1ā6Ā3āeĀ1ā1Ā44ā18Ā1ā6Ā1ā2Ā4ā2Ā4" ++
  "ā20Ā1ā1Ā6ā2Āeā10cĀ8ā4Ā14ā2Ā5aā1Ā1eā1bĀ1ā1Ā18ā1Ābā7Ā1bdā2ĀcāaĀ4ā6Ā4ā2Ā2ā2Ā3ā5Āeā1Ā1ā1Ā2ā6Ābā8Ā5ā2" ++
  "Ā39ā1Ā1ā1Ā1dā4Ā9ā3Ā150ā40Ā100ā200Ā30ā15Ā2ā6Ācfdcā1Ā337ā6Ā1ā1Āa2ā1Ā10ā3Ā1dā1Ā1ā1Ā1dā1Ā1ā1Ā83ā1Ā6ā" ++
  "4Ād413ā55Ā1ā47Ā1ā2Ā2ā1Ā2ā2Ā2ā4Ā1ācĀ1ā1Ā1ā7Ā1ā41Ā1ā4Ā2ā8Ā1ā7Ā1ā1cĀ1ā4Ā1ā5Ā1ā1Ā3ā7Ā1ā154Ā2ā124Ā2ā3" ++
  "2Ā1600ā4Ā1ā1bĀ1ā2Ā1ā1Ā2ā1Ā1āaĀ1ā4Ā1ā1Ā1ā1Ā6ā1Ā4ā1Ā1ā1Ā1ā1Ā1ā3Ā1ā2Ā1ā1Ā2ā1Ā1ā1Ā1ā1Ā1ā1Ā1ā1Ā1ā2Ā1ā" ++
  "1Ā2ā4Ā1ā7Ā1ā4Ā1ā4Ā1ā1Ā1āaĀ1ā11Ā5ā3Ā1ā5Ā1ā11Ā34ā2Ā")

def dashRuns : Runs := Runs.decode (
  "0Ā2dā1Ā55cā1Ā33ā1Āe41ā1Ā405ā1Ā809ā6Ā3dā1Ā27ā1Āfā1Ā186ā1Āc04ā1Ā2ā1Ā1fā2Ā4ā1Ā1cā1Ā1beā1Ā13ā1Ā6fā1Ā" ++
  "cd90ā2Ā25ā1Āaā1Āa9ā1Āf9fā1Ā")

def ideographicRuns : Runs := Runs.decode (
  "0Ā3006ā2Ā19ā9Āeā3Ā3c5ā19c0Ā40ā5200Ā5900ā16eĀ2ā6aĀ750aā1Ā1bā17f8Ā8ā4d6Ā2aā9Ā2467ā18cĀ4d04āa6e0Ā20" ++
  "ā103aĀ6ādeĀ2ā1682Āeā1d31Āc1fā21eĀ5e2ā134bĀ5ā1060Ā")

def casedRuns : Runs := Runs.decode (
  "0Ā41ā1aĀ6ā1aĀ2fā1Āaā1Ā4ā1Ā5ā17Ā1ā1fĀ1āc3Ā1ā4Ā4ād0Ā1ā24Ā7ā2Ā1eā5Ā60ā1Ā2aā4Ā2ā2Ā2ā4Ā1ā1Ā6ā1Ā1ā3Ā1ā" ++
  "1Ā1ā14Ā1ā53Ā1ā8bĀ8āa6Ā1ā26Ā9ā29Āb17ā26Ā1ā1Ā5ā1Ā2ā2bĀ1ā4Ā2a0ā56Ā2ā6Ā882ā9Ā7ā2bĀ2ā3Ā40āc0Ā40ā116Ā2" ++
  "ā6Ā2ā26Ā2ā6Ā2ā8Ā1ā1Ā1ā1Ā1ā1Ā1ā1fĀ2ā35Ā1ā7Ā1ā1Ā3ā3Ā1ā7Ā3ā4Ā2ā6Ā4ādĀ5ā3Ā1ā7Ā74ā1Ādā1Ā10ādĀ65ā1Ā4ā1" ++
  "Ā2āaĀ1ā1Ā3ā5Ā6ā1Ā1ā1Ā1ā1Ā1ā4Ā1ā6Ā4ā1Ā2ā4Ā5ā5Ā4ā1Ā11ā20Ā3ā2Ā331ā34Ā716āe5Ā6ā4Ā3ā2Ācā26Ā1ā1Ā5ā1Ā79" ++
  "12ā2eĀ12ā1eĀ84ā66Ā3ā4Ā1ā3bĀ5ā2Ā1ā1Ā1ā5Ā18ā5Ā1ā3Ā335ā2bĀ1āeĀ6ā50Ā4f40ā7Ācā5Ā409ā1aĀ6ā1aĀ4a5ā50Ā60" ++
  "ā24Ā4ā24Ā74ābĀ1āfĀ1ā7Ā1ā2Ā1ābĀ1āfĀ1ā7Ā1ā2Ā1c3ā1Ā2ā3Ā1ā2aĀ1ā9Ā4c5ā33Ādā33Ābadā40Ā5560ā40Ā6580ā55Ā" ++
  "1ā47Ā1ā2Ā2ā1Ā2ā2Ā2ā4Ā1ācĀ1ā1Ā1ā7Ā1ā41Ā1ā4Ā2ā8Ā1ā7Ā1ā1cĀ1ā4Ā1ā5Ā1ā1Ā3ā7Ā1ā154Ā2ā19Ā1ā19Ā1ā1fĀ1ā19" ++
  "Ā1ā1fĀ1ā19Ā1ā1fĀ1ā19Ā1ā1fĀ1ā19Ā1ā8Ā734āaĀ1ā14Ā6ā6Ā105ā3eĀ892ā44Ā7ecā1aĀ6ā1aĀ6ā1aĀ")

def joinControlRuns : Runs := Runs.decode (
  "0Ā200cā2Ā")

def defaultIgnorableCodePointRuns : Runs := Runs.decode (
  "0Āadā1Ā2a1ā1Ā2ccā1Āb42ā2Ā653ā2Ā55ā5Ā7fbā5Ā1aā5Ā31ā10Ā10f4ā1Ācc9bā10Āefā1Āa0ā1Ā4fā9Ābca7ā4Ā14cfā8" ++
  "Āc2e85ā1000Ā")

def emojiPresentationRuns : Runs := Runs.decode (
  "0Ā231aā2Ācdā4Ā3ā1Ā2ā1Ā209ā2Ā15ā2Ā32ācĀ2bā1Ā13ā1Ādā1Ā8ā2Ā11ā2Ā5ā2Ā8ā1Ā5ā1Ā15ā1Ā7ā2Ā1ā1Ā4ā1Ā2ā1Ā7ā" ++
  "1Ā4ā2Ā1cā1Ā23ā1Ā1ā1Ā4ā3Ā1ā1Ā3dā3Ā18ā1Āeā1Ā35bā2Ā33ā1Ā4ā1Ā1c4aeā1Ācaā1Ābeā1Ā2āaĀ4bā1aĀ1ā1Ā18ā1Ā14" ++
  "ā1Ā2ā5Ā1ā3Ā15ā2Āaeā21Ācā9Ā1ā46Ā1ā16Ācā2bĀ4ā5Ācā11Ā3ā1Ā3ā47Ā1ā1Ā1ābbĀ2ā3fĀdā4Ā1ā18Ā12ā1Ā1aā2Ādā1Ā" ++
  "56ā55Ā30ā46Ā6ā1Ā3ā3Ā2ā3Ā4ā4Ābā2Ā7ā9Āe3ācĀ4ā1Ā11bā2fĀ1āaĀ1āb9Ā70ādĀ3ā9Ā7ā2eĀ1ā7Ā8āeĀ4ā9Ā7ā9Ā")

def extendedPictographicRuns : Runs := Runs.decode (
  "0Āa9ā1Ā4ā1Ā1f8dā1Ācā1Ād8ā1Ā16ā1Ā5aā6Āfā2Ā16fā2Ācā1Ā5fā1Ā46ā1Ā19ābĀ4ā3Āc7ā1Āe7ā2Āaā1Ā9ā1Ā3aā4Ā1ā6" ++
  "Ā1ācĀ1ā72Āaā76Ā2ābĀ1ā1Ā1ā1Ā6ā1Ā3ā1Ā6ā1Āaā2Āfā1Ā2ā1Ā4ā1Ā1ā1Ā4ā3Ā1ā1Ābā5Ā2dā3Ā9ā1Āeā1Āeā1Ā174ā2Ā1c" ++
  "fā3Ā13ā2Ā33ā1Ā4ā1Ā4daā1Ācā1Ā259ā1Ā1ā1Ā1bd66ā100Ādā3Ā1fā1Ā3cā6Ācā2Āeā1Ā2āaĀ12ā39Ā1bāfĀaā1Ā14ā1Ā2ā" ++
  "9Ā1ā4Ā9ā1b2Ā5ā13eĀ8ā10aĀ30ā80Ā74ācĀ55ā2bĀcā4Ā38ā8Āaā6Ā28ā8Ā1eā52Ācā2fĀ1āaĀ1ā1b9Ā100ā3feĀ")

def quotationMarkRuns : Runs := Runs.decode (
  "0Ā22ā1Ā4ā1Ā83ā1Āfā1Ā1f5cā8Ā19ā2Āe07ā1Ā1c9ā4Ādā3Āce21ā4Ābdā1Ā4ā1Ā5aā2Ā")

def terminalPunctuationRuns : Runs := Runs.decode (
  "0Ā21ā1Āaā1Ā1ā1Ābā2Ā3ā1Ā33eā1Ā8ā1Ā201ā1Ā39ā1Ā48ā1Āeā1Ā1ā3Āb4ā1Ā2bābĀ1ā1Āebā2Ā36āfĀ1fā1Ā105ā2Ā4f4ā" ++
  "2Āacā1Ā4ā6Ā137ā2Ā315ā8Ā305ā1Ā7cā3Ā47ā2Ā9dā3Ā3ā1Ā27ā4Ā2ā2Ā13aā2Ā162ā4Āaeā2Ā1ā3Ā1dā2Ābcā5Ā3eā2Ā3bc" ++
  "ā2Ā9ā3Āde4ā1Ādā1Ā4ā1Āaā1Ā1ā2Ā3ā2Ā1acā2Ā74fbā2Ā10dā3Āe3ā5Ā17eā2Ā56ā2Ā5fā1Ā97ā3Ā93ā3Ā7fā1Ā10ā2Āf9ā" ++
  "1Ā5264ā3Ā1ā4Āa9ā1Āaā1Ā1ā1Ābā2Ā3ā1Ā41ā1Ā2ā1Ā43aā1Ā30ā1Ā486ā1Āc7ā1Ā136ā2Ā98ā6Ā44ā6Ā59ā4Ā3b8ā5Ā2cā4" ++
  "Ābdā7Ā70ā4Ā7fā3Ā81ā2Ā6ā1Ā10ā2Ā58ā5Ā6cā1Ā1a1ā3Ācā2Ā166ā4Ā3āfĀ69ā2Āf9ā3Ā205ā1Ā1ā1Āfbā2Ā57ā2Ā4ā2Ā19" ++
  "eā3Ā2dā1Ā285ā2Ā4aā2Ā52bā5Ā45f9ā2Ā85ā1Ā41ā3Āaā1Ā352ā2Ā4e06ā1Ā1de7ā4Ā")

def diacriticRuns : Runs := Runs.decode (
  "0Ā5eā1Ā1ā1Ā47ā1Ā6ā1Ā4ā1Ā2ā2Ā1f7ā9fĀ1ā8Ā5ā6Ā11ā2Ā4ā1Ā9ā2Āfdā5Ād1ā1Ā37ā11Ā1ā1bĀ1ā1Ā1ā2Ā1ā1Ā86ā8Ā4ā" ++
  "2Ā86ā2Ā4ā2Ā3ā3Ā43ā1bĀ5bābĀ3aābĀ22ā2Ā7eā8Ā29āaĀ10ā1cĀ3dā1Ā10ā1Ā3ā4Ā1cā1Ā4aā1Ā10ā1Ā6eā1Ā10ā1Ā6eā1Ā" ++
  "10ā1Ā2fā3Ā3cā1Ā10ā1Ā7ā1Ā77ā1Ā6eā1Ā10ā1Ā6eā1Ā10ā1Ā6dā2Ā10ā1Ā7cā1Ā7cā6Ā1ā1Ā6bā1Ādā5Ā4bā2Ā1bā1Ā1ā1Ā" ++
  "1ā1Ā4ā2Ā42ā3Ā1ā2Ā3eā1Ā70ā1Ā1ā2Ā28ā2Ā4ā5Ā19ā7Ā1ā1Āaā2Ā2c1ā3Ā3b4ā2Āb3ābĀ9ā1Ā15bā3Ā139ā8Ā2ā1Ā30āfĀ2" ++
  "ābĀ68ā1Āfā1Ā26ā9Ā36ā2Ā8aā2Ā40ā6Ā52ā19Ā4ā1Ā6ā1Ā2ā3Ā32ā3fĀ59ācĀ25ābĀ1bdā1Ā1ā3Ābā3Ādā3Ādā3Ādā2Ācf0ā" ++
  "3Ā13dā1Ā1faā6Ā69ā4Ā5fā1Ā7572ā1Ācā2Ā1ā1Ā1cā2Ā52ā2Āeā22Ā66ā3Ā6dā2Ācaā1Ā1bā12Ā39ā4Ā24ā1Ā5fā1Ācā1Ā24" ++
  "ā1Ā95ā3Ā41ā4Ā33ā1Ā64ā5Ā9ā3Ā80ā2Ā4f30ā1Ā301ā10Ā10eā1Ā1ā1Ā2fā1Ā2dā2Ā43ā1Ā2fcā1Ā49fā6Ā1ā2aĀ1ā9Ā32aā" ++
  "2Ā23bā6Ā1d5ā3Ā46ābĀ31ā4Āc0ā1Ā29ā1Ā48ā2Ā78ā2Ā3eā1Ā4cā1Ā9ā3Ā68ā2Āb2ā2Ā51ā1Ā10ā1Ā18ā7Ā3ā5Ācdā1Ā3ā1Ā" ++
  "7bā2Āfbā2Ā7eā1Ā76ā2Ā73ā1Ā10dā2Ā102ā2Ā4ā1Ā9cā1Ā53ā1Ā12ā1Ā51ā1Ā1a5ā1Ā102ā1Ā1ā2Ā51ā1Ā16afāfĀ369aā5Ā" ++
  "3bā7Ā458ā11Ā50ā2Ā3ffeā4Ā1ā7Ā1ā2Ā1f01ā2eĀ2ā17Ā220ā3Ā3ā6Ā8ā8Ā2ā7Ā1eā4Āe82ā3eĀc2ā7Ā177ā1Ā3dā4Ā5e0ā7" ++
  "Ā6dā3Ā1ā3Ā")

def extenderRuns : Runs := Runs.decode (
  "0Āb7ā1Ā218ā2Ā36eā1Ā1b9ā1Ā35aā1Ā2f0ā1Ā7fā1Ā943ā1Ā38ā1Ā263ā1Ā18eā1Ā44ā1Ā1389ā1Ā2bā5Ā67ā2Ā5dā3Ā6f16" ++
  "ā1Ā5f6ā1Ā3c2ā1Ā16ā1Ā89ā1Ā6cā1Ā15ā2Ā547bā1Ā810ā2Ābdaā1Ā268ā3Ā4cfā1Ā50a9ā2Ā49cā2Ā1ā1Ā7158ā2Ā806ā3Ā")

def noncharacterCodePointRuns : Runs := Runs.decode (
  "0Āfdd0ā20Ā20eā2Āfffeā2Āfffeā2Āfffeā2Āfffeā2Āfffeā2Āfffeā2Āfffeā2Āfffeā2Āfffeā2Āfffeā2Āfffeā2Āfff" ++
  "eā2Āfffeā2Āfffeā2Āfffeā2Āfffeā2Ā")

def regionalIndicatorRuns : Runs := Runs.decode (
  "0Ā1f1e6ā1aĀ")

def variationSelectorRuns : Runs := Runs.decode (
  "0Ā180bā3Ā1ā1Āe5f0ā10Ād02f0āf0Ā")

def unifiedIdeographRuns : Runs := Runs.decode (
  "0Ā3400ā19c0Ā40ā5200Ā5a0eā2Ā1ā1Ā1ā2Āaā1Ā1ā1Ā1ā2Ā2ā3Ā105d6āa6e0Ā20ā103aĀ6ādeĀ2ā1682Āeā1d31Ā141fā13" ++
  "4bĀ5ā1060Ā")

def patternWhiteSpaceRuns : Runs := Runs.decode (
  "0Ā9ā5Ā12ā1Ā64ā1Ā1f88ā2Ā18ā2Ā")

def sentenceTerminalRuns : Runs := Runs.decode (
  "0Ā21ā1Ācā1Ā10ā1Ā549ā1Ā93ā3Āb4ā1Ā2bā3Āf6ā1Ā3dā1Ā1ā1Ā3ā2Ā125ā2Ā6e4ā2Ā316ā1Ā4ā2Ā305ā1Āc6ā2Āccā1Ā5ā1" ++
  "Ā13aā2Ā162ā4Āaeā2Ā2ā2Ā1dā2Ābcā2Ā41ā2Ā3bcā2Ā9ā3Āde4ā1Ādā1Ā16ā2Ā1adā1Ā74fcā1Ā10eā2Āe3ā1Ā3ā1Ā17eā2Ā" ++
  "56ā2Ā5fā1Ā98ā2Ā93ā3Ā90ā2Āf9ā1Ā5266ā1Ā3ā2Āa9ā1Ācā1Ā10ā1Ā41ā1Āaf4ā2Ā4fdā5Ā2cā4Ābdā2Ā75ā4Ā7fā3Ā81ā2" ++
  "Ā6ā1Ā10ā2Ā58ā2Ā1ā2Ā6cā1Ā1a1ā2Ā175ā2Ā5āfĀ69ā2Āf9ā3Ā205ā1Ā1ā1Āfbā2Ā57ā2Ā1a4ā2Ā2b4ā2Ā4aā2Ā4b29ā2Ā85" ++
  "ā1Ā41ā2Ābā1Ā353ā1Ā4e06ā1Ā1de8ā1Ā")

def softDottedRuns : Runs := Runs.decode (
  "0Ā69ā2Āc4ā1Ā119ā1Ā1eā1Ā34ā1Ā14ā1Ā140ā1Ā62ā1Ā1ā1Ā1909ā1Ā33ā1Ādā1Ā3ā1Ā84ā1Ā9dā1Ā1a5ā1Ād6ā2Āb32ā1Ā1" ++
  "a7a5ā2Ā32ā2Ā32ā2Ā32ā2Ā32ā2Ā32ā2Ā32ā2Ā32ā2Ā32ā2Ā32ā2Ā32ā2Ā32ā2Ā32ā2Ā886ā1Ā131ā2Ā1aā1Ā")

def caseIgnorableRuns : Runs := Runs.decode (
  "0Ā27ā1Ā6ā1Ābā1Ā23ā1Ā1ā1Ā47ā1Ā4ā1Ā1ā1Ā4ā1Ā2ā2Ā1f7āc0Ā4ā2Ā4ā1Ā9ā2Ā1ā1Āfbā7Ācfā1Ā5ā1Ā31ā2dĀ1ā1Ā1ā2Ā" ++
  "1ā2Ā1ā1Ā2cā1Ābā6ĀaābĀ1ā1Ā23ā1Āaā15Ā10ā1Ā65ā8Ā1āaĀ1ā4Ā21ā1Ā1ā1Ā1eā1bĀ5bābĀ3aābĀ4ā1Ā2ā1Ā18ā18Ā2bā3" ++
  "Ā2cā1Ā7ā2Ā6ā8Ā29ā3aĀ37ā1Ā1ā1Ā4ā8Ā4ā1Ā3ā7Āaā2Ādā1Āfā1Ā3aā1Ā4ā4Ā8ā1Ā14ā2Ā1aā1Ā2ā2Ā39ā1Ā4ā2Ā4ā2Ā2ā3" ++
  "Ā3ā1Ā1eā2Ā3ā1Ābā2Ā39ā1Ā4ā5Ā1ā2Ā4ā1Ā14ā2Ā16ā6Ā1ā1Ā3aā1Ā2ā1Ā1ā4Ā8ā1Ā7ā2Ābā2Ā1eā1Ā3dā1Ācā1Ā32ā1Ā3ā1" ++
  "Ā37ā1Ā1ā3Ā5ā3Ā1ā4Ā7ā2Ābā2Ā1dā1Ā3aā1Ā2ā1Ā6ā1Ā5ā2Ā14ā2Ā1cā2Ā39ā2Ā4ā4Ā8ā1Ā14ā2Ā1dā1Ā48ā1Ā7ā3Ā1ā1Ā5a" ++
  "ā1Ā2ā7Ābā9Ā62ā1Ā2ā9Ā9ā1Ā1ā7Ā49ā2Ā1bā1Ā1ā1Ā1ā1Ā37āeĀ1ā5Ā1ā2Ā5ābĀ1ā24Ā9ā1Ā66ā4Ā1ā6Ā1ā2Ā2ā2Ā19ā2Ā4ā" ++
  "3Ā10ā4Ādā1Ā2ā2Ā6ā1Āfā1Ā5eā1Ā260ā3Ā3b2ā3Ā1dā2Ā1eā2Ā1eā2Ā40ā2Ā1ā7Ā8ā1Ā2ābĀ3ā1Ā5ā1Ā2dā5Ā33ā1Ā41ā2Ā2" ++
  "2ā1Ā76ā3Ā4ā2Ā9ā1Ā6ā3Ādbā2Ā2ā1Ā3aā1Ā1ā7Ā1ā1Ā1ā1Ā2ā8Ā6āaĀ2ā1Ā27ā1Ā8ā1fĀ31ā4Ā30ā1Ā1ā5Ā1ā1Ā5ā1Ā28ā9Ā" ++
  "cā2Ā20ā4Ā2ā2Ā1ā3Ā38ā1Ā1ā2Ā3ā1Ā1ā3Ā3aā8Ā2ā2Ā40ā6Ā52ā3Ā1ādĀ1ā7Ā4ā1Ā6ā1Ā3ā2Ā32ā3fĀdā1Ā22ā65Ā1bdā1Ā1" ++
  "ā3Ābā3Ādā3Ādā3Ādā2Ācā5Ā8ā2Āaā1Ā2ā1Ā2ā5Ā31ā5Ā1āaĀ1ā1Ādā1Ā10ādĀ33ā21Āb8bā2Ā71ā3Ā7dā1Āfā1Ā60ā20Ā2fā" ++
  "1Ā1d5ā1Ā24ā4Ā3ā5Ā5ā1Ā5dā6Ā5dā3Ā6f16ā1Ā4e2ā6Ā10eā1Ā62ā4Ā1āaĀ1ā1Ā1cā4Ā50ā2Āeā22Ā4eā1Ā17ā3Ā67ā3Ā3ā2" ++
  "Ā8ā1Ā3ā1Ā4ā1Ā19ā2Ā5ā1Ā97ā2Ā1aā12Ādā1Ā26ā8Ā19ābĀ2eā3Ā30ā1Ā2ā4Ā2ā2Ā11ā1Ā15ā2Ā42ā6Ā2ā2Ā2ā2Ācā1Ā8ā1Ā" ++
  "23ā1Ābā1Ā33ā1Ā1ā3Ā2ā2Ā5ā2Ā1ā1Ā1bā1Āeā2Ā5ā2Ā1ā1Ā64ā5Ā9ā3Ā79ā1Ā2ā1Ā4ā1Ā4f30ā1Ā93ā11Ā23dā10Ā3ā1Ācā1" ++
  "0Ā22ā1Ā2ā1Āa9ā1Ā7ā1Ā6ā1Ābā1Ā23ā1Ā1ā1Ā2fā1Ā2dā2Ā43ā1Ā15ā3Ā201ā1Āe2ā1Ā95ā5Ā405ā6Ā1ā2aĀ1ā9Ā246ā3Ā1ā" ++
  "2Ā5ā4Ā28ā3Ā4ā1Āa5ā2Ā23dā4Ā183ā2Ā50ā3Ā46ābĀ31ā4Ā7bā1Ā36āfĀ29ā1Ā2ā2Āaā3Ā31ā4Ā2ā2Ā2ā1Ā4ā1Āaā1Ā32ā3Ā" ++
  "24ā5Ā1ā8Ā3eā1Ācā2Ā34ā9Āaā4Ā2ā1Ā5fā3Ā2ā1Ā1ā2Ā6ā1Ā2ā1Ā9dā1Ā3ā8Ā15ā2Ā39ā2Ā3ā1Ā25ā7Ā3ā5Āc3ā8Ā2ā3Ā1ā1" ++
  "Ā17ā1Ā54ā6Ā1ā1Ā4ā2Ā1ā2Āeeā4Ā6ā2Ā1ā2Ā1bā2Ā55ā8Ā2ā1Ā1ā2Ā6aā1Ā1ā1Ā2ā6Ā1ā1Ā65ā3Ā2ā4Ā1ā5Ā103ā9Ā1ā2Ā10" ++
  "0ā2Ā1ā1Ā4ā1Ā90ā4Ā2ā2Ā4ā1Ā20āaĀ28ā6Ā2ā4Ā8ā1Ā9ā6Ā2ā3Ā2eādĀ1ā2Ā196ā7Ā1ā6Ā1ā1Ā52ā16Ā2ā7Ā1ā2Ā1ā2Ā7aā6" ++
  "Ā3ā1Ā1ā2Ā1ā7Ā1ā1Ā48ā2Ā3ā1Ā1ā1Ā15bā2Ābā2Ā34ā5Ā5ā1Ā1ā1Ā14edā11Ā6āfĀ369aā5Ā3bā7Ā9ā4Ā40bā1Ā3fā11Ā40ā" ++
  "2Ā1ā2Ā400bā4Ā1ā7Ā1ā2Āc9eā2Ā1ā4Ā125cā2eĀ2ā17Ā220ā3Ā9ā10Ā2ā7Ā1eā4Ā94ā3Ā7bbā37Ā4ā32Ā8ā1Āeā1Ā16ā5Ā1ā" ++
  "fĀ550ā7Ā1ā11Ā2ā7Ā1ā2Ā1ā5Ā5ā3eĀ21ā1Āa0āeĀ170ā1Ā3dā4Ā1fbā5Ā3e0ā7Ā6dā8Āaafā5Āc0c01ā1Ā1eā60Ā80āf0Ā")

def binaryProperties : List (List String × Runs) := [
  (["Alpha", "Alphabetic"], alphabeticRuns),
  (["Lower", "Lowercase"], lowercaseRuns),
  (["Upper", "Uppercase"], uppercaseRuns),
  (["WSpace", "White_Space", "Space"], whiteSpaceRuns),
  (["Hex", "Hex_Digit"], hexDigitRuns),
  (["AHex", "ASCII_Hex_Digit"], asciiHexDigitRuns),
  (["Emoji", "Emoji"], emojiRuns),
  (["Math", "Math"], mathRuns),
  (["Dash", "Dash"], dashRuns),
  (["Ideo", "Ideographic"], ideographicRuns),
  (["Cased", "Cased"], casedRuns),
  (["Join_C", "Join_Control"], joinControlRuns),
  (["DI", "Default_Ignorable_Code_Point"], defaultIgnorableCodePointRuns),
  (["EPres", "Emoji_Presentation"], emojiPresentationRuns),
  (["ExtPict", "Extended_Pictographic"], extendedPictographicRuns),
  (["QMark", "Quotation_Mark"], quotationMarkRuns),
  (["Term", "Terminal_Punctuation"], terminalPunctuationRuns),
  (["Dia", "Diacritic"], diacriticRuns),
  (["Ext", "Extender"], extenderRuns),
  (["NChar", "Noncharacter_Code_Point"], noncharacterCodePointRuns),
  (["RI", "Regional_Indicator"], regionalIndicatorRuns),
  (["VS", "Variation_Selector"], variationSelectorRuns),
  (["UIdeo", "Unified_Ideograph"], unifiedIdeographRuns),
  (["Pat_WS", "Pattern_White_Space"], patternWhiteSpaceRuns),
  (["STerm", "Sentence_Terminal"], sentenceTerminalRuns),
  (["SD", "Soft_Dotted"], softDottedRuns),
  (["CI", "Case_Ignorable"], caseIgnorableRuns),
  (["Gr_Ext", "Grapheme_Extend"], graphemeExtendRuns)]

end FieldRules.Unicode
