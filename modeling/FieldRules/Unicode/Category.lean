import FieldRules.Unicode.Runs

namespace FieldRules.Unicode

def categoryNames : List String :=
  ["Lu", "Ll", "Lt", "Lm", "Lo", "Mn", "Mc", "Me", "Nd", "Nl", "No", "Pc", "Pd", "Ps", "Pe", "Pi", "Pf", "Po", "Sm", "Sc", "Sk", "So", "Zs", "Zl", "Zp", "Cc", "Cf", "Cs", "Co", "Cn"]

def categoryRuns : Runs := Runs.decode (
  "0ę20Ė1đ3ē1đ3č1Ď1đ1Ē1đ1Č1đ2Ĉađ2Ē3đ2Ā1ač1đ1Ď1Ĕ1ċ1Ĕ1ā1ač1Ē1Ď1Ē1ę21Ė1đ1ē4ĕ1đ1Ĕ1ĕ1Ą1ď1Ē1Ě1ĕ1Ĕ1ĕ1Ē1Ċ2Ĕ" ++
  "1ā1đ2Ĕ1Ċ1Ą1Đ1Ċ3đ1Ā17Ē1Ā7ā18Ē1ā8Ā1ā1Ā1ā1Ā1ā1Ā1ā1Ā1ā1Ā1ā1Ā1ā1Ā1ā1Ā1ā1Ā1ā1Ā1ā1Ā1ā1Ā1ā1Ā1ā1Ā1ā1Ā1ā1Ā" ++
  "1ā1Ā1ā1Ā1ā1Ā1ā1Ā1ā1Ā1ā1Ā1ā1Ā1ā1Ā1ā1Ā1ā1Ā1ā1Ā1ā2Ā1ā1Ā1ā1Ā1ā1Ā1ā1Ā1ā1Ā1ā1Ā1ā1Ā1ā2Ā1ā1Ā1ā1Ā1ā1Ā1ā1Ā" ++
  "1ā1Ā1ā1Ā1ā1Ā1ā1Ā1ā1Ā1ā1Ā1ā1Ā1ā1Ā1ā1Ā1ā1Ā1ā1Ā1ā1Ā1ā1Ā1ā1Ā1ā1Ā1ā1Ā1ā1Ā1ā1Ā1ā1Ā2ā1Ā1ā1Ā1ā3Ā2ā1Ā1ā1Ā" ++
  "2ā1Ā3ā2Ā4ā1Ā2ā1Ā3ā3Ā2ā1Ā2ā1Ā1ā1Ā1ā1Ā2ā1Ā1ā2Ā1ā1Ā2ā1Ā3ā1Ā1ā1Ā2ā2Ą1Ā1ā3Ą4Ā1Ă1ā1Ā1Ă1ā1Ā1Ă1ā1Ā1ā1Ā1ā" ++
  "1Ā1ā1Ā1ā1Ā1ā1Ā1ā1Ā1ā1Ā1ā2Ā1ā1Ā1ā1Ā1ā1Ā1ā1Ā1ā1Ā1ā1Ā1ā1Ā1ā1Ā1ā2Ā1Ă1ā1Ā1ā1Ā3ā1Ā1ā1Ā1ā1Ā1ā1Ā1ā1Ā1ā1Ā" ++
  "1ā1Ā1ā1Ā1ā1Ā1ā1Ā1ā1Ā1ā1Ā1ā1Ā1ā1Ā1ā1Ā1ā1Ā1ā1Ā1ā1Ā1ā1Ā1ā1Ā1ā1Ā1ā1Ā1ā1Ā1ā1Ā1ā1Ā1ā1Ā1ā1Ā1ā1Ā1ā1Ā1ā7Ā" ++
  "2ā1Ā2ā2Ā1ā1Ā4ā1Ā1ā1Ā1ā1Ā1ā1Ā1ā45Ą1ā1bă12Ĕ4ăcĔeă5Ĕ7ă1Ĕ1ă1Ĕ11ą70Ā1ā1Ā1ā1ă1Ĕ1Ā1ā1ĝ2ă1ā3đ1Ā1ĝ4Ĕ2Ā1đ1" ++
  "Ā3ĝ1Ā1ĝ1Ā2ā1Ā11ĝ1Ā9ā23Ā1ā2Ā3ā3Ā1ā1Ā1ā1Ā1ā1Ā1ā1Ā1ā1Ā1ā1Ā1ā1Ā1ā1Ā1ā1Ā1ā1Ā1ā1Ā1ā5Ā1ā1Ē1Ā1ā1Ā2ā2Ā33ā" ++
  "30Ā1ā1Ā1ā1Ā1ā1Ā1ā1Ā1ā1Ā1ā1Ā1ā1Ā1ā1Ā1ā1Ā1ā1Ā1ā1Ā1ā1Ā1ā1Ā1ā1Ā1ā1Ā1ā1Ā1ā1ĕ1ą5ć2Ā1ā1Ā1ā1Ā1ā1Ā1ā1Ā1ā1" ++
  "Ā1ā1Ā1ā1Ā1ā1Ā1ā1Ā1ā1Ā1ā1Ā1ā1Ā1ā1Ā1ā1Ā1ā1Ā1ā1Ā1ā1Ā1ā1Ā1ā1Ā1ā1Ā1ā1Ā1ā1Ā1ā1Ā1ā1Ā1ā1Ā1ā1Ā1ā1Ā2ā1Ā1ā1" ++
  "Ā1ā1Ā1ā1Ā1ā1Ā1ā1Ā1ā2Ā1ā1Ā1ā1Ā1ā1Ā1ā1Ā1ā1Ā1ā1Ā1ā1Ā1ā1Ā1ā1Ā1ā1Ā1ā1Ā1ā1Ā1ā1Ā1ā1Ā1ā1Ā1ā1Ā1ā1Ā1ā1Ā1ā1" ++
  "Ā1ā1Ā1ā1Ā1ā1Ā1ā1Ā1ā1Ā1ā1Ā1ā1Ā1ā1Ā1ā1Ā1ā1Ā1ā1Ā1ā1Ā1ā1Ā1ā1Ā1ā1Ā1ā1Ā1ā1Ā1ā1Ā1ā1Ā1ā1Ā1ā1Ā1ā1Ā1ā1Ā1ā1" ++
  "Ā1ā1Ā1ā1Ā1ā1Ā1ā1Ā1ā1ĝ1Ā26ĝ2ă1đ6ā29đ1Č1ĝ2ĕ2ē1ĝ1ą2dČ1ą1đ1ą2đ1ą2đ1ą1ĝ8Ą1bĝ4Ą4đ2ĝbĚ6Ē3đ2ē1đ2ĕ2ąbđ1Ě1" ++
  "đ3Ą20ă1Ąaą15Ĉađ4Ą2ą1Ą63đ1Ą1ą7Ě1ĕ1ą6ă2ą2ĕ1ą4Ą2ĈaĄ3ĕ2Ą1đeĝ1Ě1Ą1ą1Ą1eą1bĝ2Ą59ąbĄ1ĝeĈaĄ21ą9ă2ĕ1đ3ă1ĝ" ++
  "2ą1ē2Ą16ą4ă1ą9ă1ą3ă1ą5ĝ2đfĝ1Ą19ą3ĝ2đ1ĝ1Ąbĝ5Ą18Ĕ1Ą6ĝ1Ě2ĝ6ą8Ą29ă1ą18Ě1ą20Ć1Ą36ą1Ć1ą1Ą1Ć3ą8Ć4ą1Ć2Ą1" ++
  "ą7Ąaą2đ2Ĉađ1ă1Ąfą1Ć2ĝ1Ą8ĝ2Ą2ĝ2Ą16ĝ1Ą7ĝ1Ą1ĝ3Ą4ĝ2ą1Ą1Ć3ą4ĝ2Ć2ĝ2Ć2ą1Ą1ĝ8Ć1ĝ4Ą2ĝ1Ą3ą2ĝ2ĈaĄ2ē2Ċ6ĕ1ē1Ą" ++
  "1đ1ą1ĝ2ą2Ć1ĝ1Ą6ĝ4Ą2ĝ2Ą16ĝ1Ą7ĝ1Ą2ĝ1Ą2ĝ1Ą2ĝ2ą1ĝ1Ć3ą2ĝ4ą2ĝ2ą3ĝ3ą1ĝ7Ą4ĝ1Ą1ĝ7Ĉaą2Ą3ą1đ1ĝaą2Ć1ĝ1Ą9ĝ1Ą3" ++
  "ĝ1Ą16ĝ1Ą7ĝ1Ą2ĝ1Ą5ĝ2ą1Ą1Ć3ą5ĝ1ą2Ć1ĝ1Ć2ą1ĝ2Ą1ĝfĄ2ą2ĝ2Ĉađ1ē1ĝ7Ą1ą6ĝ1ą1Ć2ĝ1Ą8ĝ2Ą2ĝ2Ą16ĝ1Ą7ĝ1Ą2ĝ1Ą5ĝ2" ++
  "ą1Ą1Ć1ą1Ć1ą4ĝ2Ć2ĝ2Ć2ą1ĝ7ą2Ć1ĝ4Ą2ĝ1Ą3ą2ĝ2Ĉaĕ1Ą1Ċ6ĝaą1Ą1ĝ1Ą6ĝ3Ą3ĝ1Ą4ĝ3Ą2ĝ1Ą1ĝ1Ą2ĝ3Ą2ĝ3Ą3ĝ3Ącĝ4Ć2ą1" ++
  "Ć2ĝ3Ć3ĝ1Ć3ą1ĝ2Ą1ĝ6Ć1ĝeĈaĊ3ĕ6ē1ĕ1ĝ5ą1Ć3ą1Ą8ĝ1Ą3ĝ1Ą17ĝ1Ą10ĝ2ą1Ą1ą3Ć4ĝ1ą3ĝ1ą4ĝ7ą2ĝ1Ą3ĝ2Ą1ĝ2Ą2ą2ĝ2Ĉa" ++
  "ĝ7đ1Ċ7ĕ1Ą1ą1Ć2đ1Ą8ĝ1Ą3ĝ1Ą17ĝ1Ąaĝ1Ą5ĝ2ą1Ą1Ć1ą1Ć5ĝ1ą1Ć2ĝ1Ć2ą2ĝ7Ć2ĝ6Ą2ĝ1Ą2ą2ĝ2Ĉaĝ1Ą2Ć1ĝcą2Ć2Ą9ĝ1Ą3ĝ" ++
  "1Ą29ą2Ą1Ć3ą4ĝ1Ć3ĝ1Ć3ą1Ą1ĕ1ĝ4Ą3Ć1Ċ7Ą3ą2ĝ2ĈaĊ9ĕ1Ą6ĝ1ą1Ć2ĝ1Ą12ĝ3Ą18ĝ1Ą9ĝ1Ą1ĝ2Ą7ĝ3ą1ĝ4Ć3ą3ĝ1ą1ĝ1Ć8ĝ6" ++
  "Ĉaĝ2Ć2đ1ĝcĄ30ą1Ą2ą7ĝ4ē1Ą6ă1ą8đ1Ĉađ2ĝ25Ą2ĝ1Ą1ĝ1Ą5ĝ1Ą18ĝ1Ą1ĝ1Ąaą1Ą2ą9Ą1ĝ2Ą5ĝ1ă1ĝ1ą7ĝ1Ĉaĝ2Ą4ĝ20Ą1ĕ3" ++
  "đfĕ1đ1ĕ3ą2ĕ6ĈaĊaĕ1ą1ĕ1ą1ĕ1ą1č1Ď1č1Ď1Ć2Ą8ĝ1Ą24ĝ4ąeĆ1ą5đ1ą2Ą5ąbĝ1ą24ĝ1ĕ8ą1ĕ6ĝ1ĕ2đ5ĕ4đ2ĝ25Ą2bĆ2ą4Ć1" ++
  "ą6Ć1ą2Ć2ą2Ą1Ĉađ6Ą6Ć2ą2Ą4ą3Ą1Ć3Ą2Ć7Ą3ą4Ądą1Ć2ą2Ć6ą1Ą1Ć1ĈaĆ3ą1ĕ2Ā26ĝ1Ā1ĝ5Ā1ĝ2ā2bđ1ă1ā3Ą149ĝ1Ą4ĝ2Ą7" ++
  "ĝ1Ą1ĝ1Ą4ĝ2Ą29ĝ1Ą4ĝ2Ą21ĝ1Ą4ĝ2Ą7ĝ1Ą1ĝ1Ą4ĝ2Ąfĝ1Ą39ĝ1Ą4ĝ2Ą43ĝ2ą3đ9Ċ14ĝ3Ą10ĕaĝ6Ā56ĝ2ā6ĝ2Č1Ą26cĕ1đ1Ą11" ++
  "Ė1Ą1ač1Ď1ĝ3Ą4bđ3ĉ3Ą8ĝ7Ą12ą3Ć1ĝ9Ą13ą2Ć1đ2ĝ9Ą12ą2ĝcĄdĝ1Ą3ĝ1ą2ĝcĄ34ą2Ć1ą7Ć8ą1Ć2ąbđ3ă1đ3ē1Ą1ą1ĝ2Ĉaĝ6" ++
  "Ċaĝ6đ6Č1đ4ą3Ě1ą1Ĉaĝ6Ą23ă1Ą35ĝ7Ą5ą2Ą22ą1Ą1ĝ5Ą46ĝaĄ1fĝ1ą3Ć4ą2Ć3ĝ4Ć2ą1Ć6ą3ĝ4ĕ1ĝ3đ2ĈaĄ1eĝ2Ą5ĝbĄ2cĝ4Ą" ++
  "1aĝ6ĈaĊ1ĝ3ĕ22Ą17ą2Ć2ą1ĝ2đ2Ą35Ć1ą1Ć1ą7ĝ1ą1Ć1ą1Ć2ą8Ć6ąaĝ2ą1Ĉaĝ6Ĉaĝ6đ7ă1đ6ĝ2ąeć1ą10ĝ31ą4Ć1Ą2fą1Ć1ą5" ++
  "Ć1ą1Ć5ą1Ć2Ą8ĝ3Ĉađ7ĕaą9ĕ9đ2ĝ1ą2Ć1Ą1eĆ1ą4Ć2ą2Ć1ą3Ą2ĈaĄ2cą1Ć1ą2Ć3ą1Ć1ą3Ć2ĝ8đ4Ą24Ć8ą8Ć2ą2ĝ3đ5Ĉaĝ3Ą3Ĉ" ++
  "aĄ1eă6đ2ā9ĝ7Ā2bĝ2Ā3đ8ĝ8ą3đ1ądĆ1ą7Ą4ą1Ą6ą1Ą2Ć1ą2Ą1ĝ5ā2că3fādă1ā22ă25ą40Ā1ā1Ā1ā1Ā1ā1Ā1ā1Ā1ā1Ā1ā1Ā1" ++
  "ā1Ā1ā1Ā1ā1Ā1ā1Ā1ā1Ā1ā1Ā1ā1Ā1ā1Ā1ā1Ā1ā1Ā1ā1Ā1ā1Ā1ā1Ā1ā1Ā1ā1Ā1ā1Ā1ā1Ā1ā1Ā1ā1Ā1ā1Ā1ā1Ā1ā1Ā1ā1Ā1ā1Ā1" ++
  "ā1Ā1ā1Ā1ā1Ā1ā1Ā1ā1Ā1ā1Ā1ā1Ā1ā1Ā1ā1Ā1ā1Ā1ā1Ā1ā1Ā1ā1Ā1ā1Ā1ā1Ā1ā1Ā1ā1Ā1ā1Ā1ā1Ā1ā1Ā1ā1Ā1ā1Ā1ā1Ā1ā1Ā1" ++
  "ā1Ā1ā1Ā1ā1Ā1ā1Ā1ā1Ā1ā1Ā1ā1Ā1ā1Ā1ā1Ā1ā1Ā1ā1Ā1ā1Ā1ā1Ā1ā1Ā1ā1Ā1ā1Ā1ā1Ā1ā1Ā1ā1Ā1ā1Ā1ā9Ā1ā1Ā1ā1Ā1ā1Ā1" ++
  "ā1Ā1ā1Ā1ā1Ā1ā1Ā1ā1Ā1ā1Ā1ā1Ā1ā1Ā1ā1Ā1ā1Ā1ā1Ā1ā1Ā1ā1Ā1ā1Ā1ā1Ā1ā1Ā1ā1Ā1ā1Ā1ā1Ā1ā1Ā1ā1Ā1ā1Ā1ā1Ā1ā1Ā1" ++
  "ā1Ā1ā1Ā1ā1Ā1ā1Ā1ā1Ā1ā1Ā1ā1Ā1ā1Ā1ā1Ā1ā1Ā1ā1Ā1ā1Ā1ā1Ā1ā1Ā1ā1Ā1ā1Ā1ā1Ā1ā1Ā1ā1Ā1ā1Ā1ā1Ā1ā9Ā8ā6ĝ2Ā6ĝ2" ++
  "ā8Ā8ā8Ā8ā6ĝ2Ā6ĝ2ā8ĝ1Ā1ĝ1Ā1ĝ1Ā1ĝ1Ā1ā8Ā8āeĝ2ā8Ă8ā8Ă8ā8Ă8ā5ĝ1ā2Ā4Ă1Ĕ1ā1Ĕ3ā3ĝ1ā2Ā4Ă1Ĕ3ā4ĝ2ā2Ā4ĝ1Ĕ3ā8" ++
  "Ā5Ĕ3ĝ2ā3ĝ1ā2Ā4Ă1Ĕ2ĝ1ĖbĚ5Č6đ2ď1Đ1č1ď2Đ1č1ď1đ8ė1Ę1Ě5Ė1đ9ď1Đ1đ4ċ2đ3Ē1č1Ď1đbĒ1đ1ċ1đaĖ1Ě5ĝ1ĚaĊ1ă1ĝ2Ċ6" ++
  "Ē3č1Ď1ă1ĊaĒ3č1Ď1ĝ1ădĝ3ē21ĝfądć4ą1ć3ącĝfĕ2Ā1ĕ4Ā1ĕ2ā1Ā3ā2Ā3ā1ĕ1Ā1ĕ2Ē1Ā5ĕ6Ā1ĕ1Ā1ĕ1Ā1ĕ1Ā4ĕ1ā1Ā4ā1Ą4ā" ++
  "1ĕ2ā2Ā2Ē5Ā1ā4ĕ1Ē1ĕ2ā1ĕ1Ċ10ĉ23Ā1ā1ĉ4Ċ1ĕ2ĝ4Ē5ĕ5Ē2ĕ4Ē1ĕ2Ē1ĕ2Ē1ĕ7Ē1ĕ1fĒ2ĕ2Ē1ĕ1Ē1ĕ1fĒ10cĕ8č1Ď1č1Ď1ĕ14" ++
  "Ē2ĕ7č1Ď1ĕ51Ē1ĕ1eĒ19ĕ28Ē6ĕ45ĝ19ĕbĝ15Ċ3cĕ4eĊ16ĕb7Ē1ĕ9Ē1ĕ36Ē8ĕ6fĒ1ĕf8č1Ď1č1Ď1č1Ď1č1Ď1č1Ď1č1Ď1č1Ď1Ċ1" ++
  "eĕ2cĒ5č1Ď1Ē1fč1Ď1č1Ď1č1Ď1č1Ď1č1Ď1Ē10ĕ100Ē83č1Ď1č1Ď1č1Ď1č1Ď1č1Ď1č1Ď1č1Ď1č1Ď1č1Ď1č1Ď1č1Ď1Ē3fč1Ď1č1" ++
  "Ď1Ē20č1Ď1Ē102ĕ30Ē15ĕ2Ē6ĕ27ĝ2ĕ20ĝ1ĕ69Ā30ā30Ā1ā1Ā3ā2Ā1ā1Ā1ā1Ā1ā1Ā4ā1Ā1ā2Ā1ā6ă2Ā3ā1Ā1ā1Ā1ā1Ā1ā1Ā1ā1" ++
  "Ā1ā1Ā1ā1Ā1ā1Ā1ā1Ā1ā1Ā1ā1Ā1ā1Ā1ā1Ā1ā1Ā1ā1Ā1ā1Ā1ā1Ā1ā1Ā1ā1Ā1ā1Ā1ā1Ā1ā1Ā1ā1Ā1ā1Ā1ā1Ā1ā1Ā1ā1Ā1ā1Ā1ā1" ++
  "Ā1ā1Ā1ā1Ā1ā1Ā1ā1Ā1ā1Ā1ā1Ā1ā1Ā1ā1Ā1ā1Ā1ā1Ā1ā1Ā1ā1Ā1ā1Ā1ā1Ā1ā1Ā1ā1Ā1ā1Ā1ā1Ā1ā1Ā1ā1Ā1ā2ĕ6Ā1ā1Ā1ā1ą3" ++
  "Ā1ā1ĝ5đ4Ċ1đ2ā26ĝ1ā1ĝ5ā1ĝ2Ą38ĝ7ă1đ1ĝeą1Ą17ĝ9Ą7ĝ1Ą7ĝ1Ą7ĝ1Ą7ĝ1Ą7ĝ1Ą7ĝ1Ą7ĝ1Ą7ĝ1ą20đ2ď1Đ1ď1Đ1đ3ď1Đ1đ1" ++
  "ď1Đ1đ9Č1đ2Č1đ1ď1Đ1đ2ď1Đ1č1Ď1č1Ď1č1Ď1č1Ď1đ5ă1đaČ2đ4Č1đ1č1đdĕ2đ3č1Ď1č1Ď1č1Ď1č1Ď1Č1ĝ22ĕ1aĝ1ĕ59ĝcĕd6" ++
  "ĝ1aĕcĝ4Ė1đ3ĕ1ă1Ą1ĉ1č1Ď1č1Ď1č1Ď1č1Ď1č1Ď1ĕ2č1Ď1č1Ď1č1Ď1č1Ď1Č1č1Ď2ĕ1ĉ9ą4Ć2Č1ă5ĕ2ĉ3ă1Ą1đ1ĕ2ĝ1Ą56ĝ2ą2" ++
  "Ĕ2ă2Ą1Č1Ą5ađ1ă3Ą1ĝ5Ą2bĝ1Ą5eĝ1ĕ2Ċ4ĕaĄ20ĕ24ĝcĄ10ĕ1fĝ1Ċaĕ1eĊ8ĕ1Ċfĕ20Ċaĕ27Ċfĕ140Ą19c0ĕ40Ą5215ă1Ą477ĝ" ++
  "3ĕ37ĝ9Ą28ă6đ2Ą10că1đ3Ą10ĈaĄ2ĝ14Ā1ā1Ā1ā1Ā1ā1Ā1ā1Ā1ā1Ā1ā1Ā1ā1Ā1ā1Ā1ā1Ā1ā1Ā1ā1Ā1ā1Ā1ā1Ā1ā1Ā1ā1Ā1ā1Ā" ++
  "1ā1Ā1ā1Ā1ā1Ā1ā1Ā1ā1Ā1ā1Ā1ā1Ą1ą1ć3đ1ąađ1ă1Ā1ā1Ā1ā1Ā1ā1Ā1ā1Ā1ā1Ā1ā1Ā1ā1Ā1ā1Ā1ā1Ā1ā1Ā1ā1Ā1ā1Ā1ā1Ā1ā" ++
  "1ă2ą2Ą46ĉaą2đ6ĝ8Ĕ17ă9Ĕ2Ā1ā1Ā1ā1Ā1ā1Ā1ā1Ā1ā1Ā1ā1Ā1ā3Ā1ā1Ā1ā1Ā1ā1Ā1ā1Ā1ā1Ā1ā1Ā1ā1Ā1ā1Ā1ā1Ā1ā1Ā1ā1Ā" ++
  "1ā1Ā1ā1Ā1ā1Ā1ā1Ā1ā1Ā1ā1Ā1ā1Ā1ā1Ā1ā1Ā1ā1Ā1ā1Ā1ā1Ā1ā1Ā1ā1Ā1ā1Ā1ā1Ā1ā1Ā1ā1Ā1ā1Ā1ā1ă1ā8Ā1ā1Ā1ā1Ā2ā1Ā" ++
  "1ā1Ā1ā1Ā1ā1Ā1ā1ă1Ĕ2Ā1ā1Ā1ā1Ą1Ā1ā1Ā1ā3Ā1ā1Ā1ā1Ā1ā1Ā1ā1Ā1ā1Ā1ā1Ā1ā1Ā1ā1Ā1ā1Ā1ā1Ā5ā1Ā5ā1Ā1ā1Ā1ā1Ā1ā" ++
  "1Ā1ā1Ā1ā1Ā1ā1Ā1ā1Ā4ā1Ā1ā1ĝ5Ā1ā1ĝ1ā1ĝ1ā1Ā1ā1Ā1ā1ĝ18ă3Ā1ā1Ą1ă2ā1Ą7ą1Ą3ą1Ą4ą1Ą17Ć2ą2Ć1ĕ4ą1ĝ3Ċ6ĕ2ē1ĕ" ++
  "1ĝ6Ą34đ4ĝ8Ć2Ą32Ć10ą2ĝ8đ2Ĉaĝ6ą12Ą6đ3Ą1đ1Ą2ą1ĈaĄ1cą8đ2Ą17ąbĆ2ĝbđ1Ą1dĝ3ą3Ć1Ą2fą1Ć2ą4Ć2ą2Ć3đdĝ1ă1Ĉaĝ" ++
  "4đ2Ą5ą1ă1Ą9ĈaĄ5ĝ1Ą29ą6Ć2ą2Ć2ą2ĝ9Ą3ą1Ą8ą1Ć1ĝ2Ĉaĝ2đ4Ą10ă1Ą6ĕ3Ą1Ć1ą1Ć1Ą32ą1Ą1ą3Ą2ą2Ą5ą2Ą1ą1Ą1ĝ18Ą2ă" ++
  "1đ2ĄbĆ1ą2Ć2đ2Ą1ă2Ć1ą1ĝaĄ6ĝ2Ą6ĝ2Ą6ĝ9Ą7ĝ1Ą7ĝ1ā2bĔ1ă4ā9ă1Ĕ2ĝ4ā50Ą23Ć2ą1Ć2ą1Ć2đ1Ć1ą1ĝ2Ĉaĝ6Ą2ba4ĝcĄ17" ++
  "ĝ4Ą31ĝ4ě800Ĝ1900Ą16eĝ2Ą6aĝ26ā7ĝcā5ĝ5Ą1ą1ĄaĒ1Ądĝ1Ą5ĝ1Ą1ĝ1Ą2ĝ1Ą2ĝ1Ą6cĔ11ĝ10Ą16bĎ1č1ĕ10Ą40ĝ2Ą36ĝ7ĕ1" ++
  "ĝ20Ącē1ĕ3ą10đ7č1Ď1đ1ĝ6ą10đ1Č2ċ2č1Ď1č1Ď1č1Ď1č1Ď1č1Ď1č1Ď1č1Ď1č1Ď1đ2č1Ď1đ4ċ3đ3ĝ1đ4Č1č1Ď1č1Ď1č1Ď1đ3Ē" ++
  "1Č1Ē3ĝ1đ1ē1đ2ĝ4Ą5ĝ1Ą87ĝ2Ě1ĝ1đ3ē1đ3č1Ď1đ1Ē1đ1Č1đ2Ĉađ2Ē3đ2Ā1ač1đ1Ď1Ĕ1ċ1Ĕ1ā1ač1Ē1Ď1Ē1č1Ď1đ1č1Ď1đ2Ąa" ++
  "ă1Ą2dă2Ą1fĝ3Ą6ĝ2Ą6ĝ2Ą6ĝ2Ą3ĝ3ē2Ē1Ĕ1ĕ1ē2ĝ1ĕ1Ē4ĕ2ĝaĚ3ĕ2ĝ2Ącĝ1Ą1aĝ1Ą13ĝ1Ą2ĝ1Ąfĝ2Ąeĝ22Ą7bĝ5đ3ĝ4Ċ2dĝ3ĕ" ++
  "9ĉ35Ċ4ĕ11Ċ2ĕ3ĝ1ĕdĝ3ĕ1ĝ2fĕ2dą1ĝ82Ą1dĝ3Ą31ĝfą1Ċ1bĝ4Ą20Ċ4ĝ9Ą14ĉ1Ą8ĉ1ĝ5Ą26ą5ĝ5Ą1eĝ1đ1Ą24ĝ4Ą8đ1ĉ5ĝ2aĀ" ++
  "28ā28Ą4eĝ2Ĉaĝ6Ā24ĝ4ā24ĝ4Ą28ĝ8Ą34ĝbđ1Ābĝ1Āfĝ1Ā7ĝ1Ā2ĝ1ābĝ1āfĝ1ā7ĝ1ā2ĝ43Ą137ĝ9Ą16ĝaĄ8ĝ18ă6ĝ1ă2aĝ1ă9" ++
  "ĝ45Ą6ĝ2Ą1ĝ1Ą2cĝ1Ą2ĝ3Ą1ĝ2Ą17ĝ1đ1Ċ8Ą17ĕ2Ċ7Ą1fĝ8Ċ9ĝ30Ą13ĝ1Ą2ĝ5Ċ5Ą16Ċ6ĝ3đ1Ą1aĝ5đ1ĝ40Ą38ĝ4Ċ2Ą2Ċ10ĝ2Ċ2" ++
  "eĄ1ą3ĝ1ą2ĝ5ą4Ą4ĝ1Ą3ĝ1Ą1dĝ2ą3ĝ4ą1Ċ9ĝ7đ9ĝ7Ą1dĊ2đ1Ą1dĊ3ĝ20Ą8ĕ1Ą1cą2ĝ4Ċ5đ7ĝ9Ą36ĝ3đ7Ą16ĝ2Ċ8Ą13ĝ5Ċ8Ą12" ++
  "ĝ7đ4ĝcĊ7ĝ50Ą49ĝ37Ā33ĝdā33ĝ7Ċ6Ą24ą4ĝ8Ĉaĝ126Ċ1fĝ1Ą2aĝ1ą2Č1ĝ2Ą2ĝ4bą3Ą1dĊaĄ1ĝ8Ą16ąbĊ4đ5ĝ16Ą12ą4đ4ĝ26" ++
  "Ą15Ċ7ĝ14Ą17ĝ9Ć1ą1Ć1Ą35ąfđ7ĝ4Ċ14Ĉaą1Ą2ą2Ą1ĝ9ą3Ć1Ą2dĆ3ą4Ć2ą2đ2Ě1đ4ą1ĝaĚ1ĝ2Ą19ĝ7Ĉaĝ6ą3Ą24ą5Ć1ą8ĝ1Ĉa" ++
  "đ4Ą1Ć2Ą1ĝ8Ą23ą1đ2Ą1ĝ9ą2Ć1Ą30Ć3ą9Ć2Ą4đ4ą4đ1Ć1ą1ĈaĄ1đ1Ą1đ3ĝ1Ċ14ĝbĄ12ĝ1Ą19Ć3ą3Ć2ą1Ć1ą2đ6ą1Ą2ą1ĝ3eĄ7" ++
  "ĝ1Ą1ĝ1Ą4ĝ1Ąfĝ1Ąađ1ĝ6Ą2fą1Ć3ą8ĝ5Ĉaĝ6ą2Ć2ĝ1Ą8ĝ2Ą2ĝ2Ą16ĝ1Ą7ĝ1Ą2ĝ1Ą5ĝ1ą2Ą1Ć2ą1Ć4ĝ2Ć2ĝ2Ć3ĝ2Ą1ĝ6Ć1ĝ5Ą5" ++
  "Ć2ĝ2ą7ĝ3ą5ĝ8bĄ35Ć3ą8Ć2ą3Ć1ą1Ą4đ5Ĉađ2ĝ1đ1ą1Ą3ĝ1eĄ30Ć3ą6Ć1ą1Ć4ą2Ć1ą2Ą2đ1Ą1ĝ8Ĉaĝa6Ą2fĆ3ą4ĝ2Ć4ą2Ć1ą2" ++
  "đ17Ą4ą2ĝ22Ą30Ć3ą8Ć2ą1Ć1ą2đ3Ą1ĝbĈaĝ6đdĝ13Ą2bą1Ć1ą1Ć2ą6Ć1ą1Ą1đ1ĝ6Ĉaĝ36Ą1bĝ2ą3Ć2ą4Ć1ą5ĝ4ĈaĊ2đ3ĕ1Ą7ĝ" ++
  "b9Ą2cĆ3ą9Ć1ą2đ1ĝ64Ā20ā20ĈaĊ9ĝcĄ8ĝ2Ą1ĝ2Ą8ĝ1Ą2ĝ1Ą18Ć6ĝ1Ć2ĝ2ą2Ć1ą1Ą1Ć1Ą1Ć1ą1đ3ĝ9Ĉaĝ46Ą8ĝ2Ą27Ć3ą4ĝ2ą" ++
  "2Ć4ą1Ą1đ1Ą1Ć1ĝ1bĄ1ąaĄ28ą6Ć1Ą1ą4đ8ą1ĝ8Ą1ą6Ć2ą3Ą2eądĆ1ą2đ3Ą1đ5ĝdĄ49ĝ7đaĝf6Ą9ĝ1Ą25Ć1ą7ĝ1ą6Ć1ą1Ą1đ5ĝ" ++
  "aĈaĊ13ĝ3đ2Ą1eĝ2ą16ĝ1Ć1ą7Ć1ą2Ć1ą2ĝ49Ą7ĝ1Ą2ĝ1Ą26ą6ĝ3ą1ĝ1ą2ĝ1ą7Ą1ą1ĝ8Ĉaĝ6Ą6ĝ1Ą2ĝ1Ą20Ć5ĝ1ą2ĝ1Ć2ą1Ć1ą" ++
  "1Ą1ĝ7Ĉaĝ136Ą13ą2Ć2đ2ĝ7ą2Ą1Ć1Ądĝ1Ą22Ć2ą5ĝ3Ć2ą1Ć1ą1đdĈaĝ56Ą1ĝfĊ15ĕ8ē4ĕ11ĝdđ1Ą39aĝ66ĉ6fĝ1đ5ĝbĄc4ĝa4" ++
  "cĄ61đ2ĝdĄ430Ě10ą1Ą6ąfĝfaaĄ247ĝ21b9Ą239ĝ7Ą1fĝ1Ĉaĝ4đ2Ą4fĝ1Ĉaĝ6Ą1eĝ2ą5đ1ĝaĄ30ą7đ5ĕ4ă4đ1ĕ1ĝaĈaĝ1Ċ7ĝ1" ++
  "Ą15ĝ5Ą13ĝ2b0Ā20ā20Ċ17đ4ĝ65Ą4bĝ4ą1Ą1Ć37ĝ7ą4ădĝ40ă2đ1ă1ą1ĝbĆ2ĝeĄ17f8ĝ8Ą4d6ĝ2aĄ9ĝ22e7ă4ĝ1ă7ĝ1ă2ĝ1Ą1" ++
  "23ĝfĄ1ĝ1dĄ3ĝ2Ą1ĝeĄ4ĝ8Ą18cĝ904Ą6bĝ5Ądĝ3Ą9ĝ7Ąaĝ2ĕ1ą2đ1Ě4ĝ125cą2eĝ2ą17ĝ9ĕ74ĝ3cĕf6ĝaĕ27ĝ2ĕ3cĆ2ą3ĕ3Ć6" ++
  "Ě8ą8ĕ2ą7ĕ1eą4ĕ3dĝ15ĕ42ą3ĕ1ĝ7aĊ14ĝcĊ14ĝcĕ57ĝ9Ċ19ĝ87Ā1aā1aĀ1aā7ĝ1ā12Ā1aā1aĀ1ĝ1Ā2ĝ2Ā1ĝ2Ā2ĝ2Ā4ĝ1Ā8ā4" ++
  "ĝ1ā1ĝ1ā7ĝ1ābĀ1aā1aĀ2ĝ1Ā4ĝ2Ā8ĝ1Ā7ĝ1ā1aĀ2ĝ1Ā4ĝ1Ā5ĝ1Ā1ĝ3Ā7ĝ1ā1aĀ1aā1aĀ1aā1aĀ1aā1aĀ1aā1aĀ1aā1aĀ1aā1c" ++
  "ĝ2Ā19Ē1ā19Ē1ā6Ā19Ē1ā19Ē1ā6Ā19Ē1ā19Ē1ā6Ā19Ē1ā19Ē1ā6Ā19Ē1ā19Ē1ā6Ā1ā1ĝ2Ĉ32ĕ200ą37ĕ4ą32ĕ8ą1ĕeą1ĕ2đ5ĝ" ++
  "fą5ĝ1ąfĝ450āaĄ1ā14ĝ6ā6ĝd5ą7ĝ1ą11ĝ2ą7ĝ1ą2ĝ1ą5ĝ5ă3eĝ21ą1ĝ70Ą2dĝ3ą7ă7ĝ2Ĉaĝ4Ą1ĕ1ĝ140Ą1eą1ĝ11Ą2cą4Ĉaĝ" ++
  "5ē1ĝ1d0Ą1bă1ą4Ĉaĝ2e6Ą7ĝ1Ą4ĝ1Ą2ĝ1Ąfĝ1Ąc5ĝ2Ċ9ą7ĝ29Ā22ā22ą7ă1ĝ4Ĉaĝ4đ2ĝ311Ċ3bĕ1Ċ3ē1Ċ4ĝ4cĊ2dĕ1Ċfĝc2Ą4" ++
  "ĝ1Ą1bĝ1Ą2ĝ1Ą1ĝ2Ą1ĝ1Ąaĝ1Ą4ĝ1Ą1ĝ1Ą1ĝ6Ą1ĝ4Ą1ĝ1Ą1ĝ1Ą1ĝ1Ą3ĝ1Ą2ĝ1Ą1ĝ2Ą1ĝ1Ą1ĝ1Ą1ĝ1Ą1ĝ1Ą1ĝ1Ą2ĝ1Ą1ĝ2Ą4ĝ1Ą" ++
  "7ĝ1Ą4ĝ1Ą4ĝ1Ą1ĝ1Ąaĝ1Ą11ĝ5Ą3ĝ1Ą5ĝ1Ą11ĝ34Ē2ĝ10eĕ2cĝ4ĕ64ĝcĕfĝ2ĕfĝ1ĕfĝ1ĕ25ĝaĊdĕa1ĝ38ĕ1dĝdĕ2cĝ4ĕ9ĝ7ĕ2ĝ" ++
  "eĕ6ĝ9aĕfbĔ5ĕ2d8ĝ4ĕ11ĝ3ĕdĝ3ĕ77ĝ4ĕ5fĝ6ĕcĝ4ĕ1ĝfĕcĝ4ĕ38ĝ8ĕaĝ6ĕ28ĝ8ĕ1eĝ2ĕ2ĝ4eĕ154ĝcĕeĝ2ĕdĝ3ĕ9ĝ7ĕ2eĝ1ĕ" ++
  "7ĝ8ĕeĝ4ĕ9ĝ7ĕ9ĝ7ĕ93ĝ1ĕ37ĝ25Ĉaĝ406Ąa6e0ĝ20Ą103aĝ6Ądeĝ2Ą1682ĝeĄ1d31ĝc1fĄ21eĝ5e2Ą134bĝ5Ą1060ĝadc51Ě1" ++
  "ĝ1eĚ60ĝ80ąf0ĝfe10Ĝfffeĝ2Ĝfffeĝ2ĝ")

def category (c : Char) : Nat := categoryRuns.valueAt c.toNat

def categoryAliases : List (List String × List Nat) := [
  (["Lu", "Uppercase_Letter"], [0]),
  (["Ll", "Lowercase_Letter"], [1]),
  (["Lt", "Titlecase_Letter"], [2]),
  (["Lm", "Modifier_Letter"], [3]),
  (["Lo", "Other_Letter"], [4]),
  (["Mn", "Nonspacing_Mark"], [5]),
  (["Mc", "Spacing_Mark"], [6]),
  (["Me", "Enclosing_Mark"], [7]),
  (["Nd", "Decimal_Number", "Digit"], [8]),
  (["Nl", "Letter_Number"], [9]),
  (["No", "Other_Number"], [10]),
  (["Pc", "Connector_Punctuation"], [11]),
  (["Pd", "Dash_Punctuation"], [12]),
  (["Ps", "Open_Punctuation"], [13]),
  (["Pe", "Close_Punctuation"], [14]),
  (["Pi", "Initial_Punctuation"], [15]),
  (["Pf", "Final_Punctuation"], [16]),
  (["Po", "Other_Punctuation"], [17]),
  (["Sm", "Math_Symbol"], [18]),
  (["Sc", "Currency_Symbol"], [19]),
  (["Sk", "Modifier_Symbol"], [20]),
  (["So", "Other_Symbol"], [21]),
  (["Zs", "Space_Separator"], [22]),
  (["Zl", "Line_Separator"], [23]),
  (["Zp", "Paragraph_Separator"], [24]),
  (["Cc", "Control", "Cntrl"], [25]),
  (["Cf", "Format"], [26]),
  (["Cs", "Surrogate"], [27]),
  (["Co", "Private_Use"], [28]),
  (["Cn", "Unassigned"], [29]),
  (["L", "Letter"], [0, 1, 2, 3, 4]),
  (["LC", "Cased_Letter"], [0, 1, 2]),
  (["M", "Mark", "Combining_Mark"], [5, 6, 7]),
  (["N", "Number"], [8, 9, 10]),
  (["P", "Punctuation", "Punct"], [11, 12, 13, 14, 15, 16, 17]),
  (["S", "Symbol"], [18, 19, 20, 21]),
  (["Z", "Separator"], [22, 23, 24]),
  (["C", "Other"], [25, 26, 27, 28, 29])]

def isNumeric (c : Char) : Bool := [8, 9, 10].contains (category c)

/-- Characters shown as they are in debugging text: all but controls, format characters,
surrogates, private use, unassigned code points and separators other than the space. -/
def isPrintable (c : Char) : Bool := c == ' ' || category c < 22

end FieldRules.Unicode
