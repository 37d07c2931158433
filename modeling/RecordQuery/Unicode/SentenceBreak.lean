/-
# Where sentences end

The sentence break of a character says whether a sentence can end at it, go on
after it, or begin with it.
-/

import RecordQuery.Unicode.Ranges

namespace RecordQuery
namespace Unicode
namespace SentenceBreak

/-- The names of the sentence breaks, lower case and without separators, with their
codes. -/
def names : List (String × String) := [
  ("aterm", "AT"), ("at", "AT"), ("cr", "CR"), ("close", "CL"), ("cl", "CL"), ("extend", "EX"),
  ("ex", "EX"), ("format", "FO"), ("fo", "FO"), ("lf", "LF"), ("lower", "LO"), ("lo", "LO"),
  ("numeric", "NU"), ("nu", "NU"), ("oletter", "LE"), ("le", "LE"), ("scontinue", "SC"),
  ("sc", "SC"), ("sterm", "ST"), ("st", "ST"), ("sep", "SE"), ("se", "SE"), ("sp", "SP"),
  ("upper", "UP"), ("up", "UP")]

/-- Where each of the sentence breaks starts; `-` where there is none. -/
def table : String := "
  0=- 9=SP A=LF B=SP D=CR E=- 20=SP 21=ST 22=CL 23=- 27=CL 2A=- 2C=SC 2E=AT 2F=- 30=NU 3A=SC 3C=-
  3F=ST 40=- 41=UP 5B=CL 5C=- 5D=CL 5E=- 61=LO 7B=CL 7C=- 7D=CL 7E=- 85=SE 86=- A0=SP A1=- AA=LO
  AB=CL AC=- AD=FO AE=- B5=LO B6=- BA=LO BB=CL BC=- C0=UP D7=- D8=UP DF=LO F7=- F8=LO 100=UP
  101=LO 102=UP 103=LO 104=UP 105=LO 106=UP 107=LO 108=UP 109=LO 10A=UP 10B=LO 10C=UP 10D=LO
  10E=UP 10F=LO 110=UP 111=LO 112=UP 113=LO 114=UP 115=LO 116=UP 117=LO 118=UP 119=LO 11A=UP
  11B=LO 11C=UP 11D=LO 11E=UP 11F=LO 120=UP 121=LO 122=UP 123=LO 124=UP 125=LO 126=UP 127=LO
  128=UP 129=LO 12A=UP 12B=LO 12C=UP 12D=LO 12E=UP 12F=LO 130=UP 131=LO 132=UP 133=LO 134=UP
  135=LO 136=UP 137=LO 139=UP 13A=LO 13B=UP 13C=LO 13D=UP 13E=LO 13F=UP 140=LO 141=UP 142=LO
  143=UP 144=LO 145=UP 146=LO 147=UP 148=LO 14A=UP 14B=LO 14C=UP 14D=LO 14E=UP 14F=LO 150=UP
  151=LO 152=UP 153=LO 154=UP 155=LO 156=UP 157=LO 158=UP 159=LO 15A=UP 15B=LO 15C=UP 15D=LO
  15E=UP 15F=LO 160=UP 161=LO 162=UP 163=LO 164=UP 165=LO 166=UP 167=LO 168=UP 169=LO 16A=UP
  16B=LO 16C=UP 16D=LO 16E=UP 16F=LO 170=UP 171=LO 172=UP 173=LO 174=UP 175=LO 176=UP 177=LO
  178=UP 17A=LO 17B=UP 17C=LO 17D=UP 17E=LO 181=UP 183=LO 184=UP 185=LO 186=UP 188=LO 189=UP
  18C=LO 18E=UP 192=LO 193=UP 195=LO 196=UP 199=LO 19C=UP 19E=LO 19F=UP 1A1=LO 1A2=UP 1A3=LO
  1A4=UP 1A5=LO 1A6=UP 1A8=LO 1A9=UP 1AA=LO 1AC=UP 1AD=LO 1AE=UP 1B0=LO 1B1=UP 1B4=LO 1B5=UP
  1B6=LO 1B7=UP 1B9=LO 1BB=LE 1BC=UP 1BD=LO 1C0=LE 1C4=UP 1C6=LO 1C7=UP 1C9=LO 1CA=UP 1CC=LO
  1CD=UP 1CE=LO 1CF=UP 1D0=LO 1D1=UP 1D2=LO 1D3=UP 1D4=LO 1D5=UP 1D6=LO 1D7=UP 1D8=LO 1D9=UP
  1DA=LO 1DB=UP 1DC=LO 1DE=UP 1DF=LO 1E0=UP 1E1=LO 1E2=UP 1E3=LO 1E4=UP 1E5=LO 1E6=UP 1E7=LO
  1E8=UP 1E9=LO 1EA=UP 1EB=LO 1EC=UP 1ED=LO 1EE=UP 1EF=LO 1F1=UP 1F3=LO 1F4=UP 1F5=LO 1F6=UP
  1F9=LO 1FA=UP 1FB=LO 1FC=UP 1FD=LO 1FE=UP 1FF=LO 200=UP 201=LO 202=UP 203=LO 204=UP 205=LO
  206=UP 207=LO 208=UP 209=LO 20A=UP 20B=LO 20C=UP 20D=LO 20E=UP 20F=LO 210=UP 211=LO 212=UP
  213=LO 214=UP 215=LO 216=UP 217=LO 218=UP 219=LO 21A=UP 21B=LO 21C=UP 21D=LO 21E=UP 21F=LO
  220=UP 221=LO 222=UP 223=LO 224=UP 225=LO 226=UP 227=LO 228=UP 229=LO 22A=UP 22B=LO 22C=UP
  22D=LO 22E=UP 22F=LO 230=UP 231=LO 232=UP 233=LO 23A=UP 23C=LO 23D=UP 23F=LO 241=UP 242=LO
  243=UP 247=LO 248=UP 249=LO 24A=UP 24B=LO 24C=UP 24D=LO 24E=UP 24F=LO 294=LE 295=LO 2B9=LE
  2C0=LO 2C2=- 2C6=LE 2D2=- 2E0=LO 2E5=- 2EC=LE 2ED=- 2EE=LE 2EF=- 300=EX 370=UP 371=LO 372=UP
  373=LO 374=LE 375=- 376=UP 377=LO 378=- 37A=LO 37E=SC 37F=UP 380=- 386=UP 387=- 388=UP 38B=-
  38C=UP 38D=- 38E=UP 390=LO 391=UP 3A2=- 3A3=UP 3AC=LO 3CF=UP 3D0=LO 3D2=UP 3D5=LO 3D8=UP 3D9=LO
  3DA=UP 3DB=LO 3DC=UP 3DD=LO 3DE=UP 3DF=LO 3E0=UP 3E1=LO 3E2=UP 3E3=LO 3E4=UP 3E5=LO 3E6=UP
  3E7=LO 3E8=UP 3E9=LO 3EA=UP 3EB=LO 3EC=UP 3ED=LO 3EE=UP 3EF=LO 3F4=UP 3F5=LO 3F6=- 3F7=UP 3F8=LO
  3F9=UP 3FB=LO 3FD=UP 430=LO 460=UP 461=LO 462=UP 463=LO 464=UP 465=LO 466=UP 467=LO 468=UP
  469=LO 46A=UP 46B=LO 46C=UP 46D=LO 46E=UP 46F=LO 470=UP 471=LO 472=UP 473=LO 474=UP 475=LO
  476=UP 477=LO 478=UP 479=LO 47A=UP 47B=LO 47C=UP 47D=LO 47E=UP 47F=LO 480=UP 481=LO 482=- 483=EX
  48A=UP 48B=LO 48C=UP 48D=LO 48E=UP 48F=LO 490=UP 491=LO 492=UP 493=LO 494=UP 495=LO 496=UP
  497=LO 498=UP 499=LO 49A=UP 49B=LO 49C=UP 49D=LO 49E=UP 49F=LO 4A0=UP 4A1=LO 4A2=UP 4A3=LO
  4A4=UP 4A5=LO 4A6=UP 4A7=LO 4A8=UP 4A9=LO 4AA=UP 4AB=LO 4AC=UP 4AD=LO 4AE=UP 4AF=LO 4B0=UP
  4B1=LO 4B2=UP 4B3=LO 4B4=UP 4B5=LO 4B6=UP 4B7=LO 4B8=UP 4B9=LO 4BA=UP 4BB=LO 4BC=UP 4BD=LO
  4BE=UP 4BF=LO 4C0=UP 4C2=LO 4C3=UP 4C4=LO 4C5=UP 4C6=LO 4C7=UP 4C8=LO 4C9=UP 4CA=LO 4CB=UP
  4CC=LO 4CD=UP 4CE=LO 4D0=UP 4D1=LO 4D2=UP 4D3=LO 4D4=UP 4D5=LO 4D6=UP 4D7=LO 4D8=UP 4D9=LO
  4DA=UP 4DB=LO 4DC=UP 4DD=LO 4DE=UP 4DF=LO 4E0=UP 4E1=LO 4E2=UP 4E3=LO 4E4=UP 4E5=LO 4E6=UP
  4E7=LO 4E8=UP 4E9=LO 4EA=UP 4EB=LO 4EC=UP 4ED=LO 4EE=UP 4EF=LO 4F0=UP 4F1=LO 4F2=UP 4F3=LO
  4F4=UP 4F5=LO 4F6=UP 4F7=LO 4F8=UP 4F9=LO 4FA=UP 4FB=LO 4FC=UP 4FD=LO 4FE=UP 4FF=LO 500=UP
  501=LO 502=UP 503=LO 504=UP 505=LO 506=UP 507=LO 508=UP 509=LO 50A=UP 50B=LO 50C=UP 50D=LO
  50E=UP 50F=LO 510=UP 511=LO 512=UP 513=LO 514=UP 515=LO 516=UP 517=LO 518=UP 519=LO 51A=UP
  51B=LO 51C=UP 51D=LO 51E=UP 51F=LO 520=UP 521=LO 522=UP 523=LO 524=UP 525=LO 526=UP 527=LO
  528=UP 529=LO 52A=UP 52B=LO 52C=UP 52D=LO 52E=UP 52F=LO 530=- 531=UP 557=- 559=LE 55A=- 55D=SC
  55E=- 560=LO 589=ST 58A=- 591=EX 5BE=- 5BF=EX 5C0=- 5C1=EX 5C3=- 5C4=EX 5C6=- 5C7=EX 5C8=-
  5D0=LE 5EB=- 5EF=LE 5F4=- 600=NU 606=- 60C=SC 60E=- 610=EX 61B=- 61C=FO 61D=ST 620=LE 64B=EX
  660=NU 66A=- 66B=NU 66D=- 66E=LE 670=EX 671=LE 6D4=ST 6D5=LE 6D6=EX 6DD=NU 6DE=- 6DF=EX 6E5=LE
  6E7=EX 6E9=- 6EA=EX 6EE=LE 6F0=NU 6FA=LE 6FD=- 6FF=LE 700=ST 703=- 70F=FO 710=LE 711=EX 712=LE
  730=EX 74B=- 74D=LE 7A6=EX 7B1=LE 7B2=- 7C0=NU 7CA=LE 7EB=EX 7F4=LE 7F6=- 7F8=SC 7F9=ST 7FA=LE
  7FB=- 7FD=EX 7FE=- 800=LE 816=EX 81A=LE 81B=EX 824=LE 825=EX 828=LE 829=EX 82E=- 837=ST 838=-
  839=ST 83A=- 83D=ST 83F=- 840=LE 859=EX 85C=- 860=LE 86B=- 870=LE 888=- 889=LE 88F=- 890=NU
  892=- 897=EX 8A0=LE 8CA=EX 8E2=NU 8E3=EX 904=LE 93A=EX 93D=LE 93E=EX 950=LE 951=EX 958=LE 962=EX
  964=ST 966=NU 970=- 971=LE 981=EX 984=- 985=LE 98D=- 98F=LE 991=- 993=LE 9A9=- 9AA=LE 9B1=-
  9B2=LE 9B3=- 9B6=LE 9BA=- 9BC=EX 9BD=LE 9BE=EX 9C5=- 9C7=EX 9C9=- 9CB=EX 9CE=LE 9CF=- 9D7=EX
  9D8=- 9DC=LE 9DE=- 9DF=LE 9E2=EX 9E4=- 9E6=NU 9F0=LE 9F2=- 9FC=LE 9FD=- 9FE=EX 9FF=- A01=EX
  A04=- A05=LE A0B=- A0F=LE A11=- A13=LE A29=- A2A=LE A31=- A32=LE A34=- A35=LE A37=- A38=LE A3A=-
  A3C=EX A3D=- A3E=EX A43=- A47=EX A49=- A4B=EX A4E=- A51=EX A52=- A59=LE A5D=- A5E=LE A5F=-
  A66=NU A70=EX A72=LE A75=EX A76=- A81=EX A84=- A85=LE A8E=- A8F=LE A92=- A93=LE AA9=- AAA=LE
  AB1=- AB2=LE AB4=- AB5=LE ABA=- ABC=EX ABD=LE ABE=EX AC6=- AC7=EX ACA=- ACB=EX ACE=- AD0=LE
  AD1=- AE0=LE AE2=EX AE4=- AE6=NU AF0=- AF9=LE AFA=EX B00=- B01=EX B04=- B05=LE B0D=- B0F=LE
  B11=- B13=LE B29=- B2A=LE B31=- B32=LE B34=- B35=LE B3A=- B3C=EX B3D=LE B3E=EX B45=- B47=EX
  B49=- B4B=EX B4E=- B55=EX B58=- B5C=LE B5E=- B5F=LE B62=EX B64=- B66=NU B70=- B71=LE B72=-
  B82=EX B83=LE B84=- B85=LE B8B=- B8E=LE B91=- B92=LE B96=- B99=LE B9B=- B9C=LE B9D=- B9E=LE
  BA0=- BA3=LE BA5=- BA8=LE BAB=- BAE=LE BBA=- BBE=EX BC3=- BC6=EX BC9=- BCA=EX BCE=- BD0=LE BD1=-
  BD7=EX BD8=- BE6=NU BF0=- C00=EX C05=LE C0D=- C0E=LE C11=- C12=LE C29=- C2A=LE C3A=- C3C=EX
  C3D=LE C3E=EX C45=- C46=EX C49=- C4A=EX C4E=- C55=EX C57=- C58=LE C5B=- C5D=LE C5E=- C60=LE
  C62=EX C64=- C66=NU C70=- C80=LE C81=EX C84=- C85=LE C8D=- C8E=LE C91=- C92=LE CA9=- CAA=LE
  CB4=- CB5=LE CBA=- CBC=EX CBD=LE CBE=EX CC5=- CC6=EX CC9=- CCA=EX CCE=- CD5=EX CD7=- CDD=LE
  CDF=- CE0=LE CE2=EX CE4=- CE6=NU CF0=- CF1=LE CF3=EX CF4=- D00=EX D04=LE D0D=- D0E=LE D11=-
  D12=LE D3B=EX D3D=LE D3E=EX D45=- D46=EX D49=- D4A=EX D4E=LE D4F=- D54=LE D57=EX D58=- D5F=LE
  D62=EX D64=- D66=NU D70=- D7A=LE D80=- D81=EX D84=- D85=LE D97=- D9A=LE DB2=- DB3=LE DBC=-
  DBD=LE DBE=- DC0=LE DC7=- DCA=EX DCB=- DCF=EX DD5=- DD6=EX DD7=- DD8=EX DE0=- DE6=NU DF0=-
  DF2=EX DF4=- E01=LE E31=EX E32=LE E34=EX E3B=- E40=LE E47=EX E4F=- E50=NU E5A=- E81=LE E83=-
  E84=LE E85=- E86=LE E8B=- E8C=LE EA4=- EA5=LE EA6=- EA7=LE EB1=EX EB2=LE EB4=EX EBD=LE EBE=-
  EC0=LE EC5=- EC6=LE EC7=- EC8=EX ECF=- ED0=NU EDA=- EDC=LE EE0=- F00=LE F01=- F18=EX F1A=-
  F20=NU F2A=- F35=EX F36=- F37=EX F38=- F39=EX F3A=CL F3E=EX F40=LE F48=- F49=LE F6D=- F71=EX
  F85=- F86=EX F88=LE F8D=EX F98=- F99=EX FBD=- FC6=EX FC7=- 1000=LE 102B=EX 103F=LE 1040=NU
  104A=ST 104C=- 1050=LE 1056=EX 105A=LE 105E=EX 1061=LE 1062=EX 1065=LE 1067=EX 106E=LE 1071=EX
  1075=LE 1082=EX 108E=LE 108F=EX 1090=NU 109A=EX 109E=- 10A0=UP 10C6=- 10C7=UP 10C8=- 10CD=UP
  10CE=- 10D0=LE 10FB=- 10FC=LO 10FD=LE 1249=- 124A=LE 124E=- 1250=LE 1257=- 1258=LE 1259=-
  125A=LE 125E=- 1260=LE 1289=- 128A=LE 128E=- 1290=LE 12B1=- 12B2=LE 12B6=- 12B8=LE 12BF=-
  12C0=LE 12C1=- 12C2=LE 12C6=- 12C8=LE 12D7=- 12D8=LE 1311=- 1312=LE 1316=- 1318=LE 135B=-
  135D=EX 1360=- 1362=ST 1363=- 1367=ST 1369=- 1380=LE 1390=- 13A0=UP 13F6=- 13F8=LO 13FE=-
  1401=LE 166D=- 166E=ST 166F=LE 1680=SP 1681=LE 169B=CL 169D=- 16A0=LE 16EB=- 16EE=LE 16F9=-
  1700=LE 1712=EX 1716=- 171F=LE 1732=EX 1735=ST 1737=- 1740=LE 1752=EX 1754=- 1760=LE 176D=-
  176E=LE 1771=- 1772=EX 1774=- 1780=LE 17B4=EX 17D4=ST 17D6=- 17D7=LE 17D8=- 17DC=LE 17DD=EX
  17DE=- 17E0=NU 17EA=- 1802=SC 1803=ST 1804=- 1808=SC 1809=ST 180A=- 180B=EX 180E=FO 180F=EX
  1810=NU 181A=- 1820=LE 1879=- 1880=LE 1885=EX 1887=LE 18A9=EX 18AA=LE 18AB=- 18B0=LE 18F6=-
  1900=LE 191F=- 1920=EX 192C=- 1930=EX 193C=- 1944=ST 1946=NU 1950=LE 196E=- 1970=LE 1975=-
  1980=LE 19AC=- 19B0=LE 19CA=- 19D0=NU 19DA=- 1A00=LE 1A17=EX 1A1C=- 1A20=LE 1A55=EX 1A5F=-
  1A60=EX 1A7D=- 1A7F=EX 1A80=NU 1A8A=- 1A90=NU 1A9A=- 1AA7=LE 1AA8=ST 1AAC=- 1AB0=EX 1ACF=-
  1B00=EX 1B05=LE 1B34=EX 1B45=LE 1B4D=- 1B4E=ST 1B50=NU 1B5A=ST 1B5C=- 1B5E=ST 1B60=- 1B6B=EX
  1B74=- 1B7D=ST 1B80=EX 1B83=LE 1BA1=EX 1BAE=LE 1BB0=NU 1BBA=LE 1BE6=EX 1BF4=- 1C00=LE 1C24=EX
  1C38=- 1C3B=ST 1C3D=- 1C40=NU 1C4A=- 1C4D=LE 1C50=NU 1C5A=LE 1C7E=ST 1C80=LO 1C89=UP 1C8A=LO
  1C8B=- 1C90=LE 1CBB=- 1CBD=LE 1CC0=- 1CD0=EX 1CD3=- 1CD4=EX 1CE9=LE 1CED=EX 1CEE=LE 1CF4=EX
  1CF5=LE 1CF7=EX 1CFA=LE 1CFB=- 1D00=LO 1DC0=EX 1E00=UP 1E01=LO 1E02=UP 1E03=LO 1E04=UP 1E05=LO
  1E06=UP 1E07=LO 1E08=UP 1E09=LO 1E0A=UP 1E0B=LO 1E0C=UP 1E0D=LO 1E0E=UP 1E0F=LO 1E10=UP 1E11=LO
  1E12=UP 1E13=LO 1E14=UP 1E15=LO 1E16=UP 1E17=LO 1E18=UP 1E19=LO 1E1A=UP 1E1B=LO 1E1C=UP 1E1D=LO
  1E1E=UP 1E1F=LO 1E20=UP 1E21=LO 1E22=UP 1E23=LO 1E24=UP 1E25=LO 1E26=UP 1E27=LO 1E28=UP 1E29=LO
  1E2A=UP 1E2B=LO 1E2C=UP 1E2D=LO 1E2E=UP 1E2F=LO 1E30=UP 1E31=LO 1E32=UP 1E33=LO 1E34=UP 1E35=LO
  1E36=UP 1E37=LO 1E38=UP 1E39=LO 1E3A=UP 1E3B=LO 1E3C=UP 1E3D=LO 1E3E=UP 1E3F=LO 1E40=UP 1E41=LO
  1E42=UP 1E43=LO 1E44=UP 1E45=LO 1E46=UP 1E47=LO 1E48=UP 1E49=LO 1E4A=UP 1E4B=LO 1E4C=UP 1E4D=LO
  1E4E=UP 1E4F=LO 1E50=UP 1E51=LO 1E52=UP 1E53=LO 1E54=UP 1E55=LO 1E56=UP 1E57=LO 1E58=UP 1E59=LO
  1E5A=UP 1E5B=LO 1E5C=UP 1E5D=LO 1E5E=UP 1E5F=LO 1E60=UP 1E61=LO 1E62=UP 1E63=LO 1E64=UP 1E65=LO
  1E66=UP 1E67=LO 1E68=UP 1E69=LO 1E6A=UP 1E6B=LO 1E6C=UP 1E6D=LO 1E6E=UP 1E6F=LO 1E70=UP 1E71=LO
  1E72=UP 1E73=LO 1E74=UP 1E75=LO 1E76=UP 1E77=LO 1E78=UP 1E79=LO 1E7A=UP 1E7B=LO 1E7C=UP 1E7D=LO
  1E7E=UP 1E7F=LO 1E80=UP 1E81=LO 1E82=UP 1E83=LO 1E84=UP 1E85=LO 1E86=UP 1E87=LO 1E88=UP 1E89=LO
  1E8A=UP 1E8B=LO 1E8C=UP 1E8D=LO 1E8E=UP 1E8F=LO 1E90=UP 1E91=LO 1E92=UP 1E93=LO 1E94=UP 1E95=LO
  1E9E=UP 1E9F=LO 1EA0=UP 1EA1=LO 1EA2=UP 1EA3=LO 1EA4=UP 1EA5=LO 1EA6=UP 1EA7=LO 1EA8=UP 1EA9=LO
  1EAA=UP 1EAB=LO 1EAC=UP 1EAD=LO 1EAE=UP 1EAF=LO 1EB0=UP 1EB1=LO 1EB2=UP 1EB3=LO 1EB4=UP 1EB5=LO
  1EB6=UP 1EB7=LO 1EB8=UP 1EB9=LO 1EBA=UP 1EBB=LO 1EBC=UP 1EBD=LO 1EBE=UP 1EBF=LO 1EC0=UP 1EC1=LO
  1EC2=UP 1EC3=LO 1EC4=UP 1EC5=LO 1EC6=UP 1EC7=LO 1EC8=UP 1EC9=LO 1ECA=UP 1ECB=LO 1ECC=UP 1ECD=LO
  1ECE=UP 1ECF=LO 1ED0=UP 1ED1=LO 1ED2=UP 1ED3=LO 1ED4=UP 1ED5=LO 1ED6=UP 1ED7=LO 1ED8=UP 1ED9=LO
  1EDA=UP 1EDB=LO 1EDC=UP 1EDD=LO 1EDE=UP 1EDF=LO 1EE0=UP 1EE1=LO 1EE2=UP 1EE3=LO 1EE4=UP 1EE5=LO
  1EE6=UP 1EE7=LO 1EE8=UP 1EE9=LO 1EEA=UP 1EEB=LO 1EEC=UP 1EED=LO 1EEE=UP 1EEF=LO 1EF0=UP 1EF1=LO
  1EF2=UP 1EF3=LO 1EF4=UP 1EF5=LO 1EF6=UP 1EF7=LO 1EF8=UP 1EF9=LO 1EFA=UP 1EFB=LO 1EFC=UP 1EFD=LO
  1EFE=UP 1EFF=LO 1F08=UP 1F10=LO 1F16=- 1F18=UP 1F1E=- 1F20=LO 1F28=UP 1F30=LO 1F38=UP 1F40=LO
  1F46=- 1F48=UP 1F4E=- 1F50=LO 1F58=- 1F59=UP 1F5A=- 1F5B=UP 1F5C=- 1F5D=UP 1F5E=- 1F5F=UP
  1F60=LO 1F68=UP 1F70=LO 1F7E=- 1F80=LO 1F88=UP 1F90=LO 1F98=UP 1FA0=LO 1FA8=UP 1FB0=LO 1FB5=-
  1FB6=LO 1FB8=UP 1FBD=- 1FBE=LO 1FBF=- 1FC2=LO 1FC5=- 1FC6=LO 1FC8=UP 1FCD=- 1FD0=LO 1FD4=-
  1FD6=LO 1FD8=UP 1FDC=- 1FE0=LO 1FE8=UP 1FED=- 1FF2=LO 1FF5=- 1FF6=LO 1FF8=UP 1FFD=- 2000=SP
  200B=FO 200C=EX 200E=FO 2010=- 2013=SC 2015=- 2018=CL 2020=- 2024=AT 2025=- 2028=SE 202A=FO
  202F=SP 2030=- 2039=CL 203B=- 203C=ST 203E=- 2045=CL 2047=ST 204A=- 205F=SP 2060=FO 2065=-
  2066=FO 2070=- 2071=LO 2072=- 207D=CL 207F=LO 2080=- 208D=CL 208F=- 2090=LO 209D=- 20D0=EX
  20F1=- 2102=UP 2103=- 2107=UP 2108=- 210A=LO 210B=UP 210E=LO 2110=UP 2113=LO 2114=- 2115=UP
  2116=- 2119=UP 211E=- 2124=UP 2125=- 2126=UP 2127=- 2128=UP 2129=- 212A=UP 212E=- 212F=LO
  2130=UP 2134=LO 2135=LE 2139=LO 213A=- 213C=LO 213E=UP 2140=- 2145=UP 2146=LO 214A=- 214E=LO
  214F=- 2160=UP 2170=LO 2180=LE 2183=UP 2184=LO 2185=LE 2189=- 2308=CL 230C=- 2329=CL 232B=-
  24B6=UP 24D0=LO 24EA=- 275B=CL 2761=- 2768=CL 2776=- 27C5=CL 27C7=- 27E6=CL 27F0=- 2983=CL
  2999=- 29D8=CL 29DC=- 29FC=CL 29FE=- 2C00=UP 2C30=LO 2C60=UP 2C61=LO 2C62=UP 2C65=LO 2C67=UP
  2C68=LO 2C69=UP 2C6A=LO 2C6B=UP 2C6C=LO 2C6D=UP 2C71=LO 2C72=UP 2C73=LO 2C75=UP 2C76=LO 2C7E=UP
  2C81=LO 2C82=UP 2C83=LO 2C84=UP 2C85=LO 2C86=UP 2C87=LO 2C88=UP 2C89=LO 2C8A=UP 2C8B=LO 2C8C=UP
  2C8D=LO 2C8E=UP 2C8F=LO 2C90=UP 2C91=LO 2C92=UP 2C93=LO 2C94=UP 2C95=LO 2C96=UP 2C97=LO 2C98=UP
  2C99=LO 2C9A=UP 2C9B=LO 2C9C=UP 2C9D=LO 2C9E=UP 2C9F=LO 2CA0=UP 2CA1=LO 2CA2=UP 2CA3=LO 2CA4=UP
  2CA5=LO 2CA6=UP 2CA7=LO 2CA8=UP 2CA9=LO 2CAA=UP 2CAB=LO 2CAC=UP 2CAD=LO 2CAE=UP 2CAF=LO 2CB0=UP
  2CB1=LO 2CB2=UP 2CB3=LO 2CB4=UP 2CB5=LO 2CB6=UP 2CB7=LO 2CB8=UP 2CB9=LO 2CBA=UP 2CBB=LO 2CBC=UP
  2CBD=LO 2CBE=UP 2CBF=LO 2CC0=UP 2CC1=LO 2CC2=UP 2CC3=LO 2CC4=UP 2CC5=LO 2CC6=UP 2CC7=LO 2CC8=UP
  2CC9=LO 2CCA=UP 2CCB=LO 2CCC=UP 2CCD=LO 2CCE=UP 2CCF=LO 2CD0=UP 2CD1=LO 2CD2=UP 2CD3=LO 2CD4=UP
  2CD5=LO 2CD6=UP 2CD7=LO 2CD8=UP 2CD9=LO 2CDA=UP 2CDB=LO 2CDC=UP 2CDD=LO 2CDE=UP 2CDF=LO 2CE0=UP
  2CE1=LO 2CE2=UP 2CE3=LO 2CE5=- 2CEB=UP 2CEC=LO 2CED=UP 2CEE=LO 2CEF=EX 2CF2=UP 2CF3=LO 2CF4=-
  2CF9=ST 2CFC=- 2D00=LO 2D26=- 2D27=LO 2D28=- 2D2D=LO 2D2E=- 2D30=LE 2D68=- 2D6F=LE 2D70=-
  2D7F=EX 2D80=LE 2D97=- 2DA0=LE 2DA7=- 2DA8=LE 2DAF=- 2DB0=LE 2DB7=- 2DB8=LE 2DBF=- 2DC0=LE
  2DC7=- 2DC8=LE 2DCF=- 2DD0=LE 2DD7=- 2DD8=LE 2DDF=- 2DE0=EX 2E00=CL 2E0E=- 2E1C=CL 2E1E=-
  2E20=CL 2E2A=- 2E2E=ST 2E2F=LE 2E30=- 2E3C=ST 2E3D=- 2E42=CL 2E43=- 2E53=ST 2E55=CL 2E5D=-
  3000=SP 3001=SC 3002=ST 3003=- 3005=LE 3008=CL 3012=- 3014=CL 301C=- 301D=CL 3020=- 3021=LE
  302A=EX 3030=- 3031=LE 3036=- 3038=LE 303D=- 3041=LE 3097=- 3099=EX 309B=- 309D=LE 30A0=-
  30A1=LE 30FB=- 30FC=LE 3100=- 3105=LE 3130=- 3131=LE 318F=- 31A0=LE 31C0=- 31F0=LE 3200=-
  3400=LE 4DC0=- 4E00=LE A48D=- A4D0=LE A4FE=- A4FF=ST A500=LE A60D=- A60E=ST A610=LE A620=NU
  A62A=LE A62C=- A640=UP A641=LO A642=UP A643=LO A644=UP A645=LO A646=UP A647=LO A648=UP A649=LO
  A64A=UP A64B=LO A64C=UP A64D=LO A64E=UP A64F=LO A650=UP A651=LO A652=UP A653=LO A654=UP A655=LO
  A656=UP A657=LO A658=UP A659=LO A65A=UP A65B=LO A65C=UP A65D=LO A65E=UP A65F=LO A660=UP A661=LO
  A662=UP A663=LO A664=UP A665=LO A666=UP A667=LO A668=UP A669=LO A66A=UP A66B=LO A66C=UP A66D=LO
  A66E=LE A66F=EX A673=- A674=EX A67E=- A67F=LE A680=UP A681=LO A682=UP A683=LO A684=UP A685=LO
  A686=UP A687=LO A688=UP A689=LO A68A=UP A68B=LO A68C=UP A68D=LO A68E=UP A68F=LO A690=UP A691=LO
  A692=UP A693=LO A694=UP A695=LO A696=UP A697=LO A698=UP A699=LO A69A=UP A69B=LO A69E=EX A6A0=LE
  A6F0=EX A6F2=- A6F3=ST A6F4=- A6F7=ST A6F8=- A717=LE A720=- A722=UP A723=LO A724=UP A725=LO
  A726=UP A727=LO A728=UP A729=LO A72A=UP A72B=LO A72C=UP A72D=LO A72E=UP A72F=LO A732=UP A733=LO
  A734=UP A735=LO A736=UP A737=LO A738=UP A739=LO A73A=UP A73B=LO A73C=UP A73D=LO A73E=UP A73F=LO
  A740=UP A741=LO A742=UP A743=LO A744=UP A745=LO A746=UP A747=LO A748=UP A749=LO A74A=UP A74B=LO
  A74C=UP A74D=LO A74E=UP A74F=LO A750=UP A751=LO A752=UP A753=LO A754=UP A755=LO A756=UP A757=LO
  A758=UP A759=LO A75A=UP A75B=LO A75C=UP A75D=LO A75E=UP A75F=LO A760=UP A761=LO A762=UP A763=LO
  A764=UP A765=LO A766=UP A767=LO A768=UP A769=LO A76A=UP A76B=LO A76C=UP A76D=LO A76E=UP A76F=LO
  A779=UP A77A=LO A77B=UP A77C=LO A77D=UP A77F=LO A780=UP A781=LO A782=UP A783=LO A784=UP A785=LO
  A786=UP A787=LO A788=LE A789=- A78B=UP A78C=LO A78D=UP A78E=LO A78F=LE A790=UP A791=LO A792=UP
  A793=LO A796=UP A797=LO A798=UP A799=LO A79A=UP A79B=LO A79C=UP A79D=LO A79E=UP A79F=LO A7A0=UP
  A7A1=LO A7A2=UP A7A3=LO A7A4=UP A7A5=LO A7A6=UP A7A7=LO A7A8=UP A7A9=LO A7AA=UP A7AF=LO A7B0=UP
  A7B5=LO A7B6=UP A7B7=LO A7B8=UP A7B9=LO A7BA=UP A7BB=LO A7BC=UP A7BD=LO A7BE=UP A7BF=LO A7C0=UP
  A7C1=LO A7C2=UP A7C3=LO A7C4=UP A7C8=LO A7C9=UP A7CA=LO A7CB=UP A7CD=LO A7CE=- A7D0=UP A7D1=LO
  A7D2=- A7D3=LO A7D4=- A7D5=LO A7D6=UP A7D7=LO A7D8=UP A7D9=LO A7DA=UP A7DB=LO A7DC=UP A7DD=-
  A7F2=LO A7F5=UP A7F6=LO A7F7=LE A7F8=LO A7FB=LE A802=EX A803=LE A806=EX A807=LE A80B=EX A80C=LE
  A823=EX A828=- A82C=EX A82D=- A840=LE A874=- A876=ST A878=- A880=EX A882=LE A8B4=EX A8C6=-
  A8CE=ST A8D0=NU A8DA=- A8E0=EX A8F2=LE A8F8=- A8FB=LE A8FC=- A8FD=LE A8FF=EX A900=NU A90A=LE
  A926=EX A92E=- A92F=ST A930=LE A947=EX A954=- A960=LE A97D=- A980=EX A984=LE A9B3=EX A9C1=-
  A9C8=ST A9CA=- A9CF=LE A9D0=NU A9DA=- A9E0=LE A9E5=EX A9E6=LE A9F0=NU A9FA=LE A9FF=- AA00=LE
  AA29=EX AA37=- AA40=LE AA43=EX AA44=LE AA4C=EX AA4E=- AA50=NU AA5A=- AA5D=ST AA60=LE AA77=-
  AA7A=LE AA7B=EX AA7E=LE AAB0=EX AAB1=LE AAB2=EX AAB5=LE AAB7=EX AAB9=LE AABE=EX AAC0=LE AAC1=EX
  AAC2=LE AAC3=- AADB=LE AADE=- AAE0=LE AAEB=EX AAF0=ST AAF2=LE AAF5=EX AAF7=- AB01=LE AB07=-
  AB09=LE AB0F=- AB11=LE AB17=- AB20=LE AB27=- AB28=LE AB2F=- AB30=LO AB5B=- AB5C=LO AB6A=-
  AB70=LO ABC0=LE ABE3=EX ABEB=ST ABEC=EX ABEE=- ABF0=NU ABFA=- AC00=LE D7A4=- D7B0=LE D7C7=-
  D7CB=LE D7FC=- F900=LE FA6E=- FA70=LE FADA=- FB00=LO FB07=- FB13=LO FB18=- FB1D=LE FB1E=EX
  FB1F=LE FB29=- FB2A=LE FB37=- FB38=LE FB3D=- FB3E=LE FB3F=- FB40=LE FB42=- FB43=LE FB45=-
  FB46=LE FBB2=- FBD3=LE FD3E=CL FD40=- FD50=LE FD90=- FD92=LE FDC8=- FDF0=LE FDFC=- FE00=EX
  FE10=SC FE12=ST FE13=SC FE15=ST FE17=CL FE19=- FE20=EX FE30=- FE31=SC FE33=- FE35=CL FE45=-
  FE47=CL FE49=- FE50=SC FE52=AT FE53=- FE54=SC FE56=ST FE58=SC FE59=CL FE5F=- FE63=SC FE64=-
  FE70=LE FE75=- FE76=LE FEFD=- FEFF=FO FF00=- FF01=ST FF02=- FF08=CL FF0A=- FF0C=SC FF0E=AT
  FF0F=- FF10=NU FF1A=SC FF1C=- FF1F=ST FF20=- FF21=UP FF3B=CL FF3C=- FF3D=CL FF3E=- FF41=LO
  FF5B=CL FF5C=- FF5D=CL FF5E=- FF5F=CL FF61=ST FF62=CL FF64=SC FF65=- FF66=LE FF9E=EX FFA0=LE
  FFBF=- FFC2=LE FFC8=- FFCA=LE FFD0=- FFD2=LE FFD8=- FFDA=LE FFDD=- FFF9=FO FFFC=- 10000=LE
  1000C=- 1000D=LE 10027=- 10028=LE 1003B=- 1003C=LE 1003E=- 1003F=LE 1004E=- 10050=LE 1005E=-
  10080=LE 100FB=- 10140=LE 10175=- 101FD=EX 101FE=- 10280=LE 1029D=- 102A0=LE 102D1=- 102E0=EX
  102E1=- 10300=LE 10320=- 1032D=LE 1034B=- 10350=LE 10376=EX 1037B=- 10380=LE 1039E=- 103A0=LE
  103C4=- 103C8=LE 103D0=- 103D1=LE 103D6=- 10400=UP 10428=LO 10450=LE 1049E=- 104A0=NU 104AA=-
  104B0=UP 104D4=- 104D8=LO 104FC=- 10500=LE 10528=- 10530=LE 10564=- 10570=UP 1057B=- 1057C=UP
  1058B=- 1058C=UP 10593=- 10594=UP 10596=- 10597=LO 105A2=- 105A3=LO 105B2=- 105B3=LO 105BA=-
  105BB=LO 105BD=- 105C0=LE 105F4=- 10600=LE 10737=- 10740=LE 10756=- 10760=LE 10768=- 10780=LO
  10781=LE 10783=LO 10786=- 10787=LO 107B1=- 107B2=LO 107BB=- 10800=LE 10806=- 10808=LE 10809=-
  1080A=LE 10836=- 10837=LE 10839=- 1083C=LE 1083D=- 1083F=LE 10856=- 10860=LE 10877=- 10880=LE
  1089F=- 108E0=LE 108F3=- 108F4=LE 108F6=- 10900=LE 10916=- 10920=LE 1093A=- 10980=LE 109B8=-
  109BE=LE 109C0=- 10A00=LE 10A01=EX 10A04=- 10A05=EX 10A07=- 10A0C=EX 10A10=LE 10A14=- 10A15=LE
  10A18=- 10A19=LE 10A36=- 10A38=EX 10A3B=- 10A3F=EX 10A40=- 10A56=ST 10A58=- 10A60=LE 10A7D=-
  10A80=LE 10A9D=- 10AC0=LE 10AC8=- 10AC9=LE 10AE5=EX 10AE7=- 10B00=LE 10B36=- 10B40=LE 10B56=-
  10B60=LE 10B73=- 10B80=LE 10B92=- 10C00=LE 10C49=- 10C80=UP 10CB3=- 10CC0=LO 10CF3=- 10D00=LE
  10D24=EX 10D28=- 10D30=NU 10D3A=- 10D40=NU 10D4A=LE 10D50=UP 10D66=- 10D69=EX 10D6E=- 10D6F=LE
  10D70=LO 10D86=- 10E80=LE 10EAA=- 10EAB=EX 10EAD=- 10EB0=LE 10EB2=- 10EC2=LE 10EC5=- 10EFC=EX
  10F00=LE 10F1D=- 10F27=LE 10F28=- 10F30=LE 10F46=EX 10F51=- 10F55=ST 10F5A=- 10F70=LE 10F82=EX
  10F86=ST 10F8A=- 10FB0=LE 10FC5=- 10FE0=LE 10FF7=- 11000=EX 11003=LE 11038=EX 11047=ST 11049=-
  11066=NU 11070=EX 11071=LE 11073=EX 11075=LE 11076=- 1107F=EX 11083=LE 110B0=EX 110BB=- 110BD=NU
  110BE=ST 110C2=EX 110C3=- 110CD=NU 110CE=- 110D0=LE 110E9=- 110F0=NU 110FA=- 11100=EX 11103=LE
  11127=EX 11135=- 11136=NU 11140=- 11141=ST 11144=LE 11145=EX 11147=LE 11148=- 11150=LE 11173=EX
  11174=- 11176=LE 11177=- 11180=EX 11183=LE 111B3=EX 111C1=LE 111C5=ST 111C7=- 111C9=EX 111CD=ST
  111CE=EX 111D0=NU 111DA=LE 111DB=- 111DC=LE 111DD=- 111DE=ST 111E0=- 11200=LE 11212=- 11213=LE
  1122C=EX 11238=ST 1123A=- 1123B=ST 1123D=- 1123E=EX 1123F=LE 11241=EX 11242=- 11280=LE 11287=-
  11288=LE 11289=- 1128A=LE 1128E=- 1128F=LE 1129E=- 1129F=LE 112A9=ST 112AA=- 112B0=LE 112DF=EX
  112EB=- 112F0=NU 112FA=- 11300=EX 11304=- 11305=LE 1130D=- 1130F=LE 11311=- 11313=LE 11329=-
  1132A=LE 11331=- 11332=LE 11334=- 11335=LE 1133A=- 1133B=EX 1133D=LE 1133E=EX 11345=- 11347=EX
  11349=- 1134B=EX 1134E=- 11350=LE 11351=- 11357=EX 11358=- 1135D=LE 11362=EX 11364=- 11366=EX
  1136D=- 11370=EX 11375=- 11380=LE 1138A=- 1138B=LE 1138C=- 1138E=LE 1138F=- 11390=LE 113B6=-
  113B7=LE 113B8=EX 113C1=- 113C2=EX 113C3=- 113C5=EX 113C6=- 113C7=EX 113CB=- 113CC=EX 113D1=LE
  113D2=EX 113D3=LE 113D4=ST 113D6=- 113E1=EX 113E3=- 11400=LE 11435=EX 11447=LE 1144B=ST 1144D=-
  11450=NU 1145A=- 1145E=EX 1145F=LE 11462=- 11480=LE 114B0=EX 114C4=LE 114C6=- 114C7=LE 114C8=-
  114D0=NU 114DA=- 11580=LE 115AF=EX 115B6=- 115B8=EX 115C1=- 115C2=ST 115C4=- 115C9=ST 115D8=LE
  115DC=EX 115DE=- 11600=LE 11630=EX 11641=ST 11643=- 11644=LE 11645=- 11650=NU 1165A=- 11680=LE
  116AB=EX 116B8=LE 116B9=- 116C0=NU 116CA=- 116D0=NU 116E4=- 11700=LE 1171B=- 1171D=EX 1172C=-
  11730=NU 1173A=- 1173C=ST 1173F=- 11740=LE 11747=- 11800=LE 1182C=EX 1183B=- 118A0=UP 118C0=LO
  118E0=NU 118EA=- 118FF=LE 11907=- 11909=LE 1190A=- 1190C=LE 11914=- 11915=LE 11917=- 11918=LE
  11930=EX 11936=- 11937=EX 11939=- 1193B=EX 1193F=LE 11940=EX 11941=LE 11942=EX 11944=ST 11945=-
  11946=ST 11947=- 11950=NU 1195A=- 119A0=LE 119A8=- 119AA=LE 119D1=EX 119D8=- 119DA=EX 119E1=LE
  119E2=- 119E3=LE 119E4=EX 119E5=- 11A00=LE 11A01=EX 11A0B=LE 11A33=EX 11A3A=LE 11A3B=EX 11A3F=-
  11A42=ST 11A44=- 11A47=EX 11A48=- 11A50=LE 11A51=EX 11A5C=LE 11A8A=EX 11A9A=- 11A9B=ST 11A9D=LE
  11A9E=- 11AB0=LE 11AF9=- 11BC0=LE 11BE1=- 11BF0=NU 11BFA=- 11C00=LE 11C09=- 11C0A=LE 11C2F=EX
  11C37=- 11C38=EX 11C40=LE 11C41=ST 11C43=- 11C50=NU 11C5A=- 11C72=LE 11C90=- 11C92=EX 11CA8=-
  11CA9=EX 11CB7=- 11D00=LE 11D07=- 11D08=LE 11D0A=- 11D0B=LE 11D31=EX 11D37=- 11D3A=EX 11D3B=-
  11D3C=EX 11D3E=- 11D3F=EX 11D46=LE 11D47=EX 11D48=- 11D50=NU 11D5A=- 11D60=LE 11D66=- 11D67=LE
  11D69=- 11D6A=LE 11D8A=EX 11D8F=- 11D90=EX 11D92=- 11D93=EX 11D98=LE 11D99=- 11DA0=NU 11DAA=-
  11EE0=LE 11EF3=EX 11EF7=ST 11EF9=- 11F00=EX 11F02=LE 11F03=EX 11F04=LE 11F11=- 11F12=LE 11F34=EX
  11F3B=- 11F3E=EX 11F43=ST 11F45=- 11F50=NU 11F5A=EX 11F5B=- 11FB0=LE 11FB1=- 12000=LE 1239A=-
  12400=LE 1246F=- 12480=LE 12544=- 12F90=LE 12FF1=- 13000=LE 13430=FO 13440=EX 13441=LE 13447=EX
  13456=- 13460=LE 143FB=- 14400=LE 14647=- 16100=LE 1611E=EX 16130=NU 1613A=- 16800=LE 16A39=-
  16A40=LE 16A5F=- 16A60=NU 16A6A=- 16A6E=ST 16A70=LE 16ABF=- 16AC0=NU 16ACA=- 16AD0=LE 16AEE=-
  16AF0=EX 16AF5=ST 16AF6=- 16B00=LE 16B30=EX 16B37=ST 16B39=- 16B40=LE 16B44=ST 16B45=- 16B50=NU
  16B5A=- 16B63=LE 16B78=- 16B7D=LE 16B90=- 16D40=LE 16D6D=- 16D6E=ST 16D70=NU 16D7A=- 16E40=UP
  16E60=LO 16E80=- 16E98=ST 16E99=- 16F00=LE 16F4B=- 16F4F=EX 16F50=LE 16F51=EX 16F88=- 16F8F=EX
  16F93=LE 16FA0=- 16FE0=LE 16FE2=- 16FE3=LE 16FE4=EX 16FE5=- 16FF0=EX 16FF2=- 17000=LE 187F8=-
  18800=LE 18CD6=- 18CFF=LE 18D09=- 1AFF0=LE 1AFF4=- 1AFF5=LE 1AFFC=- 1AFFD=LE 1AFFF=- 1B000=LE
  1B123=- 1B132=LE 1B133=- 1B150=LE 1B153=- 1B155=LE 1B156=- 1B164=LE 1B168=- 1B170=LE 1B2FC=-
  1BC00=LE 1BC6B=- 1BC70=LE 1BC7D=- 1BC80=LE 1BC89=- 1BC90=LE 1BC9A=- 1BC9D=EX 1BC9F=ST 1BCA0=FO
  1BCA4=- 1CCF0=NU 1CCFA=- 1CF00=EX 1CF2E=- 1CF30=EX 1CF47=- 1D165=EX 1D16A=- 1D16D=EX 1D173=FO
  1D17B=EX 1D183=- 1D185=EX 1D18C=- 1D1AA=EX 1D1AE=- 1D242=EX 1D245=- 1D400=UP 1D41A=LO 1D434=UP
  1D44E=LO 1D455=- 1D456=LO 1D468=UP 1D482=LO 1D49C=UP 1D49D=- 1D49E=UP 1D4A0=- 1D4A2=UP 1D4A3=-
  1D4A5=UP 1D4A7=- 1D4A9=UP 1D4AD=- 1D4AE=UP 1D4B6=LO 1D4BA=- 1D4BB=LO 1D4BC=- 1D4BD=LO 1D4C4=-
  1D4C5=LO 1D4D0=UP 1D4EA=LO 1D504=UP 1D506=- 1D507=UP 1D50B=- 1D50D=UP 1D515=- 1D516=UP 1D51D=-
  1D51E=LO 1D538=UP 1D53A=- 1D53B=UP 1D53F=- 1D540=UP 1D545=- 1D546=UP 1D547=- 1D54A=UP 1D551=-
  1D552=LO 1D56C=UP 1D586=LO 1D5A0=UP 1D5BA=LO 1D5D4=UP 1D5EE=LO 1D608=UP 1D622=LO 1D63C=UP
  1D656=LO 1D670=UP 1D68A=LO 1D6A6=- 1D6A8=UP 1D6C1=- 1D6C2=LO 1D6DB=- 1D6DC=LO 1D6E2=UP 1D6FB=-
  1D6FC=LO 1D715=- 1D716=LO 1D71C=UP 1D735=- 1D736=LO 1D74F=- 1D750=LO 1D756=UP 1D76F=- 1D770=LO
  1D789=- 1D78A=LO 1D790=UP 1D7A9=- 1D7AA=LO 1D7C3=- 1D7C4=LO 1D7CA=UP 1D7CB=LO 1D7CC=- 1D7CE=NU
  1D800=- 1DA00=EX 1DA37=- 1DA3B=EX 1DA6D=- 1DA75=EX 1DA76=- 1DA84=EX 1DA85=- 1DA88=ST 1DA89=-
  1DA9B=EX 1DAA0=- 1DAA1=EX 1DAB0=- 1DF00=LO 1DF0A=LE 1DF0B=LO 1DF1F=- 1DF25=LO 1DF2B=- 1E000=EX
  1E007=- 1E008=EX 1E019=- 1E01B=EX 1E022=- 1E023=EX 1E025=- 1E026=EX 1E02B=- 1E030=LO 1E06E=-
  1E08F=EX 1E090=- 1E100=LE 1E12D=- 1E130=EX 1E137=LE 1E13E=- 1E140=NU 1E14A=- 1E14E=LE 1E14F=-
  1E290=LE 1E2AE=EX 1E2AF=- 1E2C0=LE 1E2EC=EX 1E2F0=NU 1E2FA=- 1E4D0=LE 1E4EC=EX 1E4F0=NU 1E4FA=-
  1E5D0=LE 1E5EE=EX 1E5F0=LE 1E5F1=NU 1E5FB=- 1E7E0=LE 1E7E7=- 1E7E8=LE 1E7EC=- 1E7ED=LE 1E7EF=-
  1E7F0=LE 1E7FF=- 1E800=LE 1E8C5=- 1E8D0=EX 1E8D7=- 1E900=UP 1E922=LO 1E944=EX 1E94B=LE 1E94C=-
  1E950=NU 1E95A=- 1EE00=LE 1EE04=- 1EE05=LE 1EE20=- 1EE21=LE 1EE23=- 1EE24=LE 1EE25=- 1EE27=LE
  1EE28=- 1EE29=LE 1EE33=- 1EE34=LE 1EE38=- 1EE39=LE 1EE3A=- 1EE3B=LE 1EE3C=- 1EE42=LE 1EE43=-
  1EE47=LE 1EE48=- 1EE49=LE 1EE4A=- 1EE4B=LE 1EE4C=- 1EE4D=LE 1EE50=- 1EE51=LE 1EE53=- 1EE54=LE
  1EE55=- 1EE57=LE 1EE58=- 1EE59=LE 1EE5A=- 1EE5B=LE 1EE5C=- 1EE5D=LE 1EE5E=- 1EE5F=LE 1EE60=-
  1EE61=LE 1EE63=- 1EE64=LE 1EE65=- 1EE67=LE 1EE6B=- 1EE6C=LE 1EE73=- 1EE74=LE 1EE78=- 1EE79=LE
  1EE7D=- 1EE7E=LE 1EE7F=- 1EE80=LE 1EE8A=- 1EE8B=LE 1EE9C=- 1EEA1=LE 1EEA4=- 1EEA5=LE 1EEAA=-
  1EEAB=LE 1EEBC=- 1F130=UP 1F14A=- 1F150=UP 1F16A=- 1F170=UP 1F18A=- 1F676=CL 1F679=- 1FBF0=NU
  1FBFA=- 20000=LE 2A6E0=- 2A700=LE 2B73A=- 2B740=LE 2B81E=- 2B820=LE 2CEA2=- 2CEB0=LE 2EBE1=-
  2EBF0=LE 2EE5E=- 2F800=LE 2FA1E=- 30000=LE 3134B=- 31350=LE 323B0=- E0001=FO E0002=- E0020=EX
  E0080=- E0100=EX E01F0=-"

/-- The stretches of characters that break alike. -/
def runs : Runs String := Runs.ofText id table

/-- The characters with this code. -/
def ranges (code : String) : Ranges := runs.rangesWhere (· == code)

end SentenceBreak
end Unicode
end RecordQuery
