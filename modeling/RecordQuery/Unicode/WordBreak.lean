/-
# Where words end

The word break of a character says how it joins with its neighbours into words
and numbers.
-/

import RecordQuery.Unicode.Ranges

namespace RecordQuery
namespace Unicode
namespace WordBreak

/-- The names of the word breaks, lower case and without separators, with their
codes. -/
def names : List (String × String) := [
  ("aletter", "LE"), ("le", "LE"), ("cr", "CR"), ("doublequote", "DQ"), ("dq", "DQ"),
  ("extend", "Extend"), ("extendnumlet", "EX"), ("ex", "EX"), ("format", "FO"), ("fo", "FO"),
  ("hebrewletter", "HL"), ("hl", "HL"), ("katakana", "KA"), ("ka", "KA"), ("lf", "LF"),
  ("midletter", "ML"), ("ml", "ML"), ("midnum", "MN"), ("mn", "MN"), ("midnumlet", "MB"),
  ("mb", "MB"), ("newline", "NL"), ("nl", "NL"), ("numeric", "NU"), ("nu", "NU"),
  ("regionalindicator", "RI"), ("ri", "RI"), ("singlequote", "SQ"), ("sq", "SQ"),
  ("wsegspace", "WSegSpace"), ("zwj", "ZWJ")]

/-- Where each of the word breaks starts; `-` where there is none. -/
def table : String := "
  0=- A=LF B=NL D=CR E=- 20=WSegSpace 21=- 22=DQ 23=- 27=SQ 28=- 2C=MN 2D=- 2E=MB 2F=- 30=NU 3A=ML
  3B=MN 3C=- 41=LE 5B=- 5F=EX 60=- 61=LE 7B=- 85=NL 86=- AA=LE AB=- AD=FO AE=- B5=LE B6=- B7=ML
  B8=- BA=LE BB=- C0=LE D7=- D8=LE F7=- F8=LE 2D8=- 2DE=LE 300=Extend 370=LE 375=- 376=LE 378=-
  37A=LE 37E=MN 37F=LE 380=- 386=LE 387=ML 388=LE 38B=- 38C=LE 38D=- 38E=LE 3A2=- 3A3=LE 3F6=-
  3F7=LE 482=- 483=Extend 48A=LE 530=- 531=LE 557=- 559=LE 55D=- 55E=LE 55F=ML 560=LE 589=MN
  58A=LE 58B=- 591=Extend 5BE=- 5BF=Extend 5C0=- 5C1=Extend 5C3=- 5C4=Extend 5C6=- 5C7=Extend
  5C8=- 5D0=HL 5EB=- 5EF=HL 5F3=LE 5F4=ML 5F5=- 600=NU 606=- 60C=MN 60E=- 610=Extend 61B=- 61C=FO
  61D=- 620=LE 64B=Extend 660=NU 66A=- 66B=NU 66C=MN 66D=- 66E=LE 670=Extend 671=LE 6D4=- 6D5=LE
  6D6=Extend 6DD=NU 6DE=- 6DF=Extend 6E5=LE 6E7=Extend 6E9=- 6EA=Extend 6EE=LE 6F0=NU 6FA=LE 6FD=-
  6FF=LE 700=- 70F=LE 711=Extend 712=LE 730=Extend 74B=- 74D=LE 7A6=Extend 7B1=LE 7B2=- 7C0=NU
  7CA=LE 7EB=Extend 7F4=LE 7F6=- 7F8=MN 7F9=- 7FA=LE 7FB=- 7FD=Extend 7FE=- 800=LE 816=Extend
  81A=LE 81B=Extend 824=LE 825=Extend 828=LE 829=Extend 82E=- 840=LE 859=Extend 85C=- 860=LE 86B=-
  870=LE 888=- 889=LE 88F=- 890=NU 892=- 897=Extend 8A0=LE 8CA=Extend 8E2=NU 8E3=Extend 904=LE
  93A=Extend 93D=LE 93E=Extend 950=LE 951=Extend 958=LE 962=Extend 964=- 966=NU 970=- 971=LE
  981=Extend 984=- 985=LE 98D=- 98F=LE 991=- 993=LE 9A9=- 9AA=LE 9B1=- 9B2=LE 9B3=- 9B6=LE 9BA=-
  9BC=Extend 9BD=LE 9BE=Extend 9C5=- 9C7=Extend 9C9=- 9CB=Extend 9CE=LE 9CF=- 9D7=Extend 9D8=-
  9DC=LE 9DE=- 9DF=LE 9E2=Extend 9E4=- 9E6=NU 9F0=LE 9F2=- 9FC=LE 9FD=- 9FE=Extend 9FF=-
  A01=Extend A04=- A05=LE A0B=- A0F=LE A11=- A13=LE A29=- A2A=LE A31=- A32=LE A34=- A35=LE A37=-
  A38=LE A3A=- A3C=Extend A3D=- A3E=Extend A43=- A47=Extend A49=- A4B=Extend A4E=- A51=Extend
  A52=- A59=LE A5D=- A5E=LE A5F=- A66=NU A70=Extend A72=LE A75=Extend A76=- A81=Extend A84=-
  A85=LE A8E=- A8F=LE A92=- A93=LE AA9=- AAA=LE AB1=- AB2=LE AB4=- AB5=LE ABA=- ABC=Extend ABD=LE
  ABE=Extend AC6=- AC7=Extend ACA=- ACB=Extend ACE=- AD0=LE AD1=- AE0=LE AE2=Extend AE4=- AE6=NU
  AF0=- AF9=LE AFA=Extend B00=- B01=Extend B04=- B05=LE B0D=- B0F=LE B11=- B13=LE B29=- B2A=LE
  B31=- B32=LE B34=- B35=LE B3A=- B3C=Extend B3D=LE B3E=Extend B45=- B47=Extend B49=- B4B=Extend
  B4E=- B55=Extend B58=- B5C=LE B5E=- B5F=LE B62=Extend B64=- B66=NU B70=- B71=LE B72=- B82=Extend
  B83=LE B84=- B85=LE B8B=- B8E=LE B91=- B92=LE B96=- B99=LE B9B=- B9C=LE B9D=- B9E=LE BA0=-
  BA3=LE BA5=- BA8=LE BAB=- BAE=LE BBA=- BBE=Extend BC3=- BC6=Extend BC9=- BCA=Extend BCE=- BD0=LE
  BD1=- BD7=Extend BD8=- BE6=NU BF0=- C00=Extend C05=LE C0D=- C0E=LE C11=- C12=LE C29=- C2A=LE
  C3A=- C3C=Extend C3D=LE C3E=Extend C45=- C46=Extend C49=- C4A=Extend C4E=- C55=Extend C57=-
  C58=LE C5B=- C5D=LE C5E=- C60=LE C62=Extend C64=- C66=NU C70=- C80=LE C81=Extend C84=- C85=LE
  C8D=- C8E=LE C91=- C92=LE CA9=- CAA=LE CB4=- CB5=LE CBA=- CBC=Extend CBD=LE CBE=Extend CC5=-
  CC6=Extend CC9=- CCA=Extend CCE=- CD5=Extend CD7=- CDD=LE CDF=- CE0=LE CE2=Extend CE4=- CE6=NU
  CF0=- CF1=LE CF3=Extend CF4=- D00=Extend D04=LE D0D=- D0E=LE D11=- D12=LE D3B=Extend D3D=LE
  D3E=Extend D45=- D46=Extend D49=- D4A=Extend D4E=LE D4F=- D54=LE D57=Extend D58=- D5F=LE
  D62=Extend D64=- D66=NU D70=- D7A=LE D80=- D81=Extend D84=- D85=LE D97=- D9A=LE DB2=- DB3=LE
  DBC=- DBD=LE DBE=- DC0=LE DC7=- DCA=Extend DCB=- DCF=Extend DD5=- DD6=Extend DD7=- DD8=Extend
  DE0=- DE6=NU DF0=- DF2=Extend DF4=- E31=Extend E32=- E34=Extend E3B=- E47=Extend E4F=- E50=NU
  E5A=- EB1=Extend EB2=- EB4=Extend EBD=- EC8=Extend ECF=- ED0=NU EDA=- F00=LE F01=- F18=Extend
  F1A=- F20=NU F2A=- F35=Extend F36=- F37=Extend F38=- F39=Extend F3A=- F3E=Extend F40=LE F48=-
  F49=LE F6D=- F71=Extend F85=- F86=Extend F88=LE F8D=Extend F98=- F99=Extend FBD=- FC6=Extend
  FC7=- 102B=Extend 103F=- 1040=NU 104A=- 1056=Extend 105A=- 105E=Extend 1061=- 1062=Extend 1065=-
  1067=Extend 106E=- 1071=Extend 1075=- 1082=Extend 108E=- 108F=Extend 1090=NU 109A=Extend 109E=-
  10A0=LE 10C6=- 10C7=LE 10C8=- 10CD=LE 10CE=- 10D0=LE 10FB=- 10FC=LE 1249=- 124A=LE 124E=-
  1250=LE 1257=- 1258=LE 1259=- 125A=LE 125E=- 1260=LE 1289=- 128A=LE 128E=- 1290=LE 12B1=-
  12B2=LE 12B6=- 12B8=LE 12BF=- 12C0=LE 12C1=- 12C2=LE 12C6=- 12C8=LE 12D7=- 12D8=LE 1311=-
  1312=LE 1316=- 1318=LE 135B=- 135D=Extend 1360=- 1380=LE 1390=- 13A0=LE 13F6=- 13F8=LE 13FE=-
  1401=LE 166D=- 166F=LE 1680=WSegSpace 1681=LE 169B=- 16A0=LE 16EB=- 16EE=LE 16F9=- 1700=LE
  1712=Extend 1716=- 171F=LE 1732=Extend 1735=- 1740=LE 1752=Extend 1754=- 1760=LE 176D=- 176E=LE
  1771=- 1772=Extend 1774=- 17B4=Extend 17D4=- 17DD=Extend 17DE=- 17E0=NU 17EA=- 180B=Extend
  180E=FO 180F=Extend 1810=NU 181A=- 1820=LE 1879=- 1880=LE 1885=Extend 1887=LE 18A9=Extend
  18AA=LE 18AB=- 18B0=LE 18F6=- 1900=LE 191F=- 1920=Extend 192C=- 1930=Extend 193C=- 1946=NU
  1950=- 19D0=NU 19DA=- 1A00=LE 1A17=Extend 1A1C=- 1A55=Extend 1A5F=- 1A60=Extend 1A7D=-
  1A7F=Extend 1A80=NU 1A8A=- 1A90=NU 1A9A=- 1AB0=Extend 1ACF=- 1B00=Extend 1B05=LE 1B34=Extend
  1B45=LE 1B4D=- 1B50=NU 1B5A=- 1B6B=Extend 1B74=- 1B80=Extend 1B83=LE 1BA1=Extend 1BAE=LE 1BB0=NU
  1BBA=LE 1BE6=Extend 1BF4=- 1C00=LE 1C24=Extend 1C38=- 1C40=NU 1C4A=- 1C4D=LE 1C50=NU 1C5A=LE
  1C7E=- 1C80=LE 1C8B=- 1C90=LE 1CBB=- 1CBD=LE 1CC0=- 1CD0=Extend 1CD3=- 1CD4=Extend 1CE9=LE
  1CED=Extend 1CEE=LE 1CF4=Extend 1CF5=LE 1CF7=Extend 1CFA=LE 1CFB=- 1D00=LE 1DC0=Extend 1E00=LE
  1F16=- 1F18=LE 1F1E=- 1F20=LE 1F46=- 1F48=LE 1F4E=- 1F50=LE 1F58=- 1F59=LE 1F5A=- 1F5B=LE 1F5C=-
  1F5D=LE 1F5E=- 1F5F=LE 1F7E=- 1F80=LE 1FB5=- 1FB6=LE 1FBD=- 1FBE=LE 1FBF=- 1FC2=LE 1FC5=-
  1FC6=LE 1FCD=- 1FD0=LE 1FD4=- 1FD6=LE 1FDC=- 1FE0=LE 1FED=- 1FF2=LE 1FF5=- 1FF6=LE 1FFD=-
  2000=WSegSpace 2007=- 2008=WSegSpace 200B=- 200C=Extend 200D=ZWJ 200E=FO 2010=- 2018=MB 201A=-
  2024=MB 2025=- 2027=ML 2028=NL 202A=FO 202F=EX 2030=- 203F=EX 2041=- 2044=MN 2045=- 2054=EX
  2055=- 205F=WSegSpace 2060=FO 2065=- 2066=FO 2070=- 2071=LE 2072=- 207F=LE 2080=- 2090=LE 209D=-
  20D0=Extend 20F1=- 2102=LE 2103=- 2107=LE 2108=- 210A=LE 2114=- 2115=LE 2116=- 2119=LE 211E=-
  2124=LE 2125=- 2126=LE 2127=- 2128=LE 2129=- 212A=LE 212E=- 212F=LE 213A=- 213C=LE 2140=-
  2145=LE 214A=- 214E=LE 214F=- 2160=LE 2189=- 24B6=LE 24EA=- 2C00=LE 2CE5=- 2CEB=LE 2CEF=Extend
  2CF2=LE 2CF4=- 2D00=LE 2D26=- 2D27=LE 2D28=- 2D2D=LE 2D2E=- 2D30=LE 2D68=- 2D6F=LE 2D70=-
  2D7F=Extend 2D80=LE 2D97=- 2DA0=LE 2DA7=- 2DA8=LE 2DAF=- 2DB0=LE 2DB7=- 2DB8=LE 2DBF=- 2DC0=LE
  2DC7=- 2DC8=LE 2DCF=- 2DD0=LE 2DD7=- 2DD8=LE 2DDF=- 2DE0=Extend 2E00=- 2E2F=LE 2E30=-
  3000=WSegSpace 3001=- 3005=LE 3006=- 302A=Extend 3030=- 3031=KA 3036=- 303B=LE 303D=-
  3099=Extend 309B=KA 309D=- 30A0=KA 30FB=- 30FC=KA 3100=- 3105=LE 3130=- 3131=LE 318F=- 31A0=LE
  31C0=- 31F0=KA 3200=- 32D0=KA 32FF=- 3300=KA 3358=- A000=LE A48D=- A4D0=LE A4FE=- A500=LE A60D=-
  A610=LE A620=NU A62A=LE A62C=- A640=LE A66F=Extend A673=- A674=Extend A67E=- A67F=LE A69E=Extend
  A6A0=LE A6F0=Extend A6F2=- A708=LE A7CE=- A7D0=LE A7D2=- A7D3=LE A7D4=- A7D5=LE A7DD=- A7F2=LE
  A802=Extend A803=LE A806=Extend A807=LE A80B=Extend A80C=LE A823=Extend A828=- A82C=Extend
  A82D=- A840=LE A874=- A880=Extend A882=LE A8B4=Extend A8C6=- A8D0=NU A8DA=- A8E0=Extend A8F2=LE
  A8F8=- A8FB=LE A8FC=- A8FD=LE A8FF=Extend A900=NU A90A=LE A926=Extend A92E=- A930=LE A947=Extend
  A954=- A960=LE A97D=- A980=Extend A984=LE A9B3=Extend A9C1=- A9CF=LE A9D0=NU A9DA=- A9E5=Extend
  A9E6=- A9F0=NU A9FA=- AA00=LE AA29=Extend AA37=- AA40=LE AA43=Extend AA44=LE AA4C=Extend AA4E=-
  AA50=NU AA5A=- AA7B=Extend AA7E=- AAB0=Extend AAB1=- AAB2=Extend AAB5=- AAB7=Extend AAB9=-
  AABE=Extend AAC0=- AAC1=Extend AAC2=- AAE0=LE AAEB=Extend AAF0=- AAF2=LE AAF5=Extend AAF7=-
  AB01=LE AB07=- AB09=LE AB0F=- AB11=LE AB17=- AB20=LE AB27=- AB28=LE AB2F=- AB30=LE AB6A=-
  AB70=LE ABE3=Extend ABEB=- ABEC=Extend ABEE=- ABF0=NU ABFA=- AC00=LE D7A4=- D7B0=LE D7C7=-
  D7CB=LE D7FC=- FB00=LE FB07=- FB13=LE FB18=- FB1D=HL FB1E=Extend FB1F=HL FB29=- FB2A=HL FB37=-
  FB38=HL FB3D=- FB3E=HL FB3F=- FB40=HL FB42=- FB43=HL FB45=- FB46=HL FB50=LE FBB2=- FBD3=LE
  FD3E=- FD50=LE FD90=- FD92=LE FDC8=- FDF0=LE FDFC=- FE00=Extend FE10=MN FE11=- FE13=ML FE14=MN
  FE15=- FE20=Extend FE30=- FE33=EX FE35=- FE4D=EX FE50=MN FE51=- FE52=MB FE53=- FE54=MN FE55=ML
  FE56=- FE70=LE FE75=- FE76=LE FEFD=- FEFF=FO FF00=- FF07=MB FF08=- FF0C=MN FF0D=- FF0E=MB FF0F=-
  FF10=NU FF1A=ML FF1B=MN FF1C=- FF21=LE FF3B=- FF3F=EX FF40=- FF41=LE FF5B=- FF66=KA FF9E=Extend
  FFA0=LE FFBF=- FFC2=LE FFC8=- FFCA=LE FFD0=- FFD2=LE FFD8=- FFDA=LE FFDD=- FFF9=FO FFFC=-
  10000=LE 1000C=- 1000D=LE 10027=- 10028=LE 1003B=- 1003C=LE 1003E=- 1003F=LE 1004E=- 10050=LE
  1005E=- 10080=LE 100FB=- 10140=LE 10175=- 101FD=Extend 101FE=- 10280=LE 1029D=- 102A0=LE 102D1=-
  102E0=Extend 102E1=- 10300=LE 10320=- 1032D=LE 1034B=- 10350=LE 10376=Extend 1037B=- 10380=LE
  1039E=- 103A0=LE 103C4=- 103C8=LE 103D0=- 103D1=LE 103D6=- 10400=LE 1049E=- 104A0=NU 104AA=-
  104B0=LE 104D4=- 104D8=LE 104FC=- 10500=LE 10528=- 10530=LE 10564=- 10570=LE 1057B=- 1057C=LE
  1058B=- 1058C=LE 10593=- 10594=LE 10596=- 10597=LE 105A2=- 105A3=LE 105B2=- 105B3=LE 105BA=-
  105BB=LE 105BD=- 105C0=LE 105F4=- 10600=LE 10737=- 10740=LE 10756=- 10760=LE 10768=- 10780=LE
  10786=- 10787=LE 107B1=- 107B2=LE 107BB=- 10800=LE 10806=- 10808=LE 10809=- 1080A=LE 10836=-
  10837=LE 10839=- 1083C=LE 1083D=- 1083F=LE 10856=- 10860=LE 10877=- 10880=LE 1089F=- 108E0=LE
  108F3=- 108F4=LE 108F6=- 10900=LE 10916=- 10920=LE 1093A=- 10980=LE 109B8=- 109BE=LE 109C0=-
  10A00=LE 10A01=Extend 10A04=- 10A05=Extend 10A07=- 10A0C=Extend 10A10=LE 10A14=- 10A15=LE
  10A18=- 10A19=LE 10A36=- 10A38=Extend 10A3B=- 10A3F=Extend 10A40=- 10A60=LE 10A7D=- 10A80=LE
  10A9D=- 10AC0=LE 10AC8=- 10AC9=LE 10AE5=Extend 10AE7=- 10B00=LE 10B36=- 10B40=LE 10B56=-
  10B60=LE 10B73=- 10B80=LE 10B92=- 10C00=LE 10C49=- 10C80=LE 10CB3=- 10CC0=LE 10CF3=- 10D00=LE
  10D24=Extend 10D28=- 10D30=NU 10D3A=- 10D40=NU 10D4A=LE 10D66=- 10D69=Extend 10D6E=- 10D6F=LE
  10D86=- 10E80=LE 10EAA=- 10EAB=Extend 10EAD=- 10EB0=LE 10EB2=- 10EC2=LE 10EC5=- 10EFC=Extend
  10F00=LE 10F1D=- 10F27=LE 10F28=- 10F30=LE 10F46=Extend 10F51=- 10F70=LE 10F82=Extend 10F86=-
  10FB0=LE 10FC5=- 10FE0=LE 10FF7=- 11000=Extend 11003=LE 11038=Extend 11047=- 11066=NU
  11070=Extend 11071=LE 11073=Extend 11075=LE 11076=- 1107F=Extend 11083=LE 110B0=Extend 110BB=-
  110BD=NU 110BE=- 110C2=Extend 110C3=- 110CD=NU 110CE=- 110D0=LE 110E9=- 110F0=NU 110FA=-
  11100=Extend 11103=LE 11127=Extend 11135=- 11136=NU 11140=- 11144=LE 11145=Extend 11147=LE
  11148=- 11150=LE 11173=Extend 11174=- 11176=LE 11177=- 11180=Extend 11183=LE 111B3=Extend
  111C1=LE 111C5=- 111C9=Extend 111CD=- 111CE=Extend 111D0=NU 111DA=LE 111DB=- 111DC=LE 111DD=-
  11200=LE 11212=- 11213=LE 1122C=Extend 11238=- 1123E=Extend 1123F=LE 11241=Extend 11242=-
  11280=LE 11287=- 11288=LE 11289=- 1128A=LE 1128E=- 1128F=LE 1129E=- 1129F=LE 112A9=- 112B0=LE
  112DF=Extend 112EB=- 112F0=NU 112FA=- 11300=Extend 11304=- 11305=LE 1130D=- 1130F=LE 11311=-
  11313=LE 11329=- 1132A=LE 11331=- 11332=LE 11334=- 11335=LE 1133A=- 1133B=Extend 1133D=LE
  1133E=Extend 11345=- 11347=Extend 11349=- 1134B=Extend 1134E=- 11350=LE 11351=- 11357=Extend
  11358=- 1135D=LE 11362=Extend 11364=- 11366=Extend 1136D=- 11370=Extend 11375=- 11380=LE 1138A=-
  1138B=LE 1138C=- 1138E=LE 1138F=- 11390=LE 113B6=- 113B7=LE 113B8=Extend 113C1=- 113C2=Extend
  113C3=- 113C5=Extend 113C6=- 113C7=Extend 113CB=- 113CC=Extend 113D1=LE 113D2=Extend 113D3=LE
  113D4=- 113E1=Extend 113E3=- 11400=LE 11435=Extend 11447=LE 1144B=- 11450=NU 1145A=-
  1145E=Extend 1145F=LE 11462=- 11480=LE 114B0=Extend 114C4=LE 114C6=- 114C7=LE 114C8=- 114D0=NU
  114DA=- 11580=LE 115AF=Extend 115B6=- 115B8=Extend 115C1=- 115D8=LE 115DC=Extend 115DE=-
  11600=LE 11630=Extend 11641=- 11644=LE 11645=- 11650=NU 1165A=- 11680=LE 116AB=Extend 116B8=LE
  116B9=- 116C0=NU 116CA=- 116D0=NU 116E4=- 1171D=Extend 1172C=- 11730=NU 1173A=- 11800=LE
  1182C=Extend 1183B=- 118A0=LE 118E0=NU 118EA=- 118FF=LE 11907=- 11909=LE 1190A=- 1190C=LE
  11914=- 11915=LE 11917=- 11918=LE 11930=Extend 11936=- 11937=Extend 11939=- 1193B=Extend
  1193F=LE 11940=Extend 11941=LE 11942=Extend 11944=- 11950=NU 1195A=- 119A0=LE 119A8=- 119AA=LE
  119D1=Extend 119D8=- 119DA=Extend 119E1=LE 119E2=- 119E3=LE 119E4=Extend 119E5=- 11A00=LE
  11A01=Extend 11A0B=LE 11A33=Extend 11A3A=LE 11A3B=Extend 11A3F=- 11A47=Extend 11A48=- 11A50=LE
  11A51=Extend 11A5C=LE 11A8A=Extend 11A9A=- 11A9D=LE 11A9E=- 11AB0=LE 11AF9=- 11BC0=LE 11BE1=-
  11BF0=NU 11BFA=- 11C00=LE 11C09=- 11C0A=LE 11C2F=Extend 11C37=- 11C38=Extend 11C40=LE 11C41=-
  11C50=NU 11C5A=- 11C72=LE 11C90=- 11C92=Extend 11CA8=- 11CA9=Extend 11CB7=- 11D00=LE 11D07=-
  11D08=LE 11D0A=- 11D0B=LE 11D31=Extend 11D37=- 11D3A=Extend 11D3B=- 11D3C=Extend 11D3E=-
  11D3F=Extend 11D46=LE 11D47=Extend 11D48=- 11D50=NU 11D5A=- 11D60=LE 11D66=- 11D67=LE 11D69=-
  11D6A=LE 11D8A=Extend 11D8F=- 11D90=Extend 11D92=- 11D93=Extend 11D98=LE 11D99=- 11DA0=NU
  11DAA=- 11EE0=LE 11EF3=Extend 11EF7=- 11F00=Extend 11F02=LE 11F03=Extend 11F04=LE 11F11=-
  11F12=LE 11F34=Extend 11F3B=- 11F3E=Extend 11F43=- 11F50=NU 11F5A=Extend 11F5B=- 11FB0=LE
  11FB1=- 12000=LE 1239A=- 12400=LE 1246F=- 12480=LE 12544=- 12F90=LE 12FF1=- 13000=LE 13430=FO
  13440=Extend 13441=LE 13447=Extend 13456=- 13460=LE 143FB=- 14400=LE 14647=- 16100=LE
  1611E=Extend 16130=NU 1613A=- 16800=LE 16A39=- 16A40=LE 16A5F=- 16A60=NU 16A6A=- 16A70=LE
  16ABF=- 16AC0=NU 16ACA=- 16AD0=LE 16AEE=- 16AF0=Extend 16AF5=- 16B00=LE 16B30=Extend 16B37=-
  16B40=LE 16B44=- 16B50=NU 16B5A=- 16B63=LE 16B78=- 16B7D=LE 16B90=- 16D40=LE 16D6D=- 16D70=NU
  16D7A=- 16E40=LE 16E80=- 16F00=LE 16F4B=- 16F4F=Extend 16F50=LE 16F51=Extend 16F88=-
  16F8F=Extend 16F93=LE 16FA0=- 16FE0=LE 16FE2=- 16FE3=LE 16FE4=Extend 16FE5=- 16FF0=Extend
  16FF2=- 1AFF0=KA 1AFF4=- 1AFF5=KA 1AFFC=- 1AFFD=KA 1AFFF=- 1B000=KA 1B001=- 1B120=KA 1B123=-
  1B155=KA 1B156=- 1B164=KA 1B168=- 1BC00=LE 1BC6B=- 1BC70=LE 1BC7D=- 1BC80=LE 1BC89=- 1BC90=LE
  1BC9A=- 1BC9D=Extend 1BC9F=- 1BCA0=FO 1BCA4=- 1CCF0=NU 1CCFA=- 1CF00=Extend 1CF2E=- 1CF30=Extend
  1CF47=- 1D165=Extend 1D16A=- 1D16D=Extend 1D173=FO 1D17B=Extend 1D183=- 1D185=Extend 1D18C=-
  1D1AA=Extend 1D1AE=- 1D242=Extend 1D245=- 1D400=LE 1D455=- 1D456=LE 1D49D=- 1D49E=LE 1D4A0=-
  1D4A2=LE 1D4A3=- 1D4A5=LE 1D4A7=- 1D4A9=LE 1D4AD=- 1D4AE=LE 1D4BA=- 1D4BB=LE 1D4BC=- 1D4BD=LE
  1D4C4=- 1D4C5=LE 1D506=- 1D507=LE 1D50B=- 1D50D=LE 1D515=- 1D516=LE 1D51D=- 1D51E=LE 1D53A=-
  1D53B=LE 1D53F=- 1D540=LE 1D545=- 1D546=LE 1D547=- 1D54A=LE 1D551=- 1D552=LE 1D6A6=- 1D6A8=LE
  1D6C1=- 1D6C2=LE 1D6DB=- 1D6DC=LE 1D6FB=- 1D6FC=LE 1D715=- 1D716=LE 1D735=- 1D736=LE 1D74F=-
  1D750=LE 1D76F=- 1D770=LE 1D789=- 1D78A=LE 1D7A9=- 1D7AA=LE 1D7C3=- 1D7C4=LE 1D7CC=- 1D7CE=NU
  1D800=- 1DA00=Extend 1DA37=- 1DA3B=Extend 1DA6D=- 1DA75=Extend 1DA76=- 1DA84=Extend 1DA85=-
  1DA9B=Extend 1DAA0=- 1DAA1=Extend 1DAB0=- 1DF00=LE 1DF1F=- 1DF25=LE 1DF2B=- 1E000=Extend 1E007=-
  1E008=Extend 1E019=- 1E01B=Extend 1E022=- 1E023=Extend 1E025=- 1E026=Extend 1E02B=- 1E030=LE
  1E06E=- 1E08F=Extend 1E090=- 1E100=LE 1E12D=- 1E130=Extend 1E137=LE 1E13E=- 1E140=NU 1E14A=-
  1E14E=LE 1E14F=- 1E290=LE 1E2AE=Extend 1E2AF=- 1E2C0=LE 1E2EC=Extend 1E2F0=NU 1E2FA=- 1E4D0=LE
  1E4EC=Extend 1E4F0=NU 1E4FA=- 1E5D0=LE 1E5EE=Extend 1E5F0=LE 1E5F1=NU 1E5FB=- 1E7E0=LE 1E7E7=-
  1E7E8=LE 1E7EC=- 1E7ED=LE 1E7EF=- 1E7F0=LE 1E7FF=- 1E800=LE 1E8C5=- 1E8D0=Extend 1E8D7=-
  1E900=LE 1E944=Extend 1E94B=LE 1E94C=- 1E950=NU 1E95A=- 1EE00=LE 1EE04=- 1EE05=LE 1EE20=-
  1EE21=LE 1EE23=- 1EE24=LE 1EE25=- 1EE27=LE 1EE28=- 1EE29=LE 1EE33=- 1EE34=LE 1EE38=- 1EE39=LE
  1EE3A=- 1EE3B=LE 1EE3C=- 1EE42=LE 1EE43=- 1EE47=LE 1EE48=- 1EE49=LE 1EE4A=- 1EE4B=LE 1EE4C=-
  1EE4D=LE 1EE50=- 1EE51=LE 1EE53=- 1EE54=LE 1EE55=- 1EE57=LE 1EE58=- 1EE59=LE 1EE5A=- 1EE5B=LE
  1EE5C=- 1EE5D=LE 1EE5E=- 1EE5F=LE 1EE60=- 1EE61=LE 1EE63=- 1EE64=LE 1EE65=- 1EE67=LE 1EE6B=-
  1EE6C=LE 1EE73=- 1EE74=LE 1EE78=- 1EE79=LE 1EE7D=- 1EE7E=LE 1EE7F=- 1EE80=LE 1EE8A=- 1EE8B=LE
  1EE9C=- 1EEA1=LE 1EEA4=- 1EEA5=LE 1EEAA=- 1EEAB=LE 1EEBC=- 1F130=LE 1F14A=- 1F150=LE 1F16A=-
  1F170=LE 1F18A=- 1F1E6=RI 1F200=- 1F3FB=Extend 1F400=- 1FBF0=NU 1FBFA=- E0001=FO E0002=-
  E0020=Extend E0080=- E0100=Extend E01F0=-"

/-- The stretches of characters that break alike. -/
def runs : Runs String := Runs.ofText id table

/-- The characters with this code. -/
def ranges (code : String) : Ranges := runs.rangesWhere (· == code)

end WordBreak
end Unicode
end RecordQuery
